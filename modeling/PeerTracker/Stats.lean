import PeerTracker.Net.Address
import PeerTracker.Table

/-!
# Counters

A tracker counts what it does in wrapping 64-bit counters and how many peer
records announce from each address; an address without records is forgotten.
-/

namespace PeerTracker

/-- Records per address. -/
abbrev AddressCounts := Table Net.IpAddr UInt32

namespace AddressCounts

/-- One more record. -/
def add (t : AddressCounts) (ip : Net.IpAddr) : AddressCounts :=
  t.insert ip ((t.get? ip).getD 0 + 1)

/-- One record less. -/
def remove (t : AddressCounts) (ip : Net.IpAddr) : AddressCounts :=
  match t.get? ip with
  | none => t
  | some n => if n - 1 = 0 then t.erase ip else t.insert ip (n - 1)

/-- A record moves from one address to another. -/
def change (t : AddressCounts) (old new : Net.IpAddr) : AddressCounts :=
  if old = new then t else add (remove t old) new

end AddressCounts

inductive Counter where
  | connects
  | announces
  | scrapes
  | clientErrors
  | serverErrors
  | seeds
  | leeches
  | badActors
  | expiredPeers
  | expiredHashes
  | queueDrops
deriving DecidableEq, Repr

namespace Counter

def all : List Counter :=
  [connects, announces, scrapes, clientErrors, serverErrors, seeds, leeches, badActors,
    expiredPeers, expiredHashes, queueDrops]

def name : Counter → String
  | connects => "Connects"
  | announces => "Announces"
  | scrapes => "Scrapes"
  | clientErrors => "ClientErrors"
  | serverErrors => "ServerErrors"
  | seeds => "Seeds"
  | leeches => "Leeches"
  | badActors => "BadActors"
  | expiredPeers => "ExpiredPeers"
  | expiredHashes => "ExpiredHashes"
  | queueDrops => "UdpQueueDrops"

/-- The name in a published report. -/
def label : Counter → String
  | connects => "connects"
  | announces => "announces"
  | scrapes => "scrapes"
  | clientErrors => "client_errors"
  | serverErrors => "server_errors"
  | seeds => "seeds"
  | leeches => "leeches"
  | badActors => "bad_actors"
  | expiredPeers => "expired_peers"
  | expiredHashes => "expired_hashes"
  | queueDrops => "udp_queue_drops"

end Counter

structure Stats where
  started : Int64 := 0
  connects : Int64 := 0
  announces : Int64 := 0
  scrapes : Int64 := 0
  clientErrors : Int64 := 0
  serverErrors : Int64 := 0
  seeds : Int64 := 0
  leeches : Int64 := 0
  badActors : Int64 := 0
  expiredPeers : Int64 := 0
  expiredHashes : Int64 := 0
  queueDrops : Int64 := 0
  addresses : AddressCounts := ∅
deriving Inhabited, DecidableEq

namespace Stats

def add (s : Stats) (c : Counter) (delta : Int64) : Stats :=
  match c with
  | .connects => { s with connects := s.connects + delta }
  | .announces => { s with announces := s.announces + delta }
  | .scrapes => { s with scrapes := s.scrapes + delta }
  | .clientErrors => { s with clientErrors := s.clientErrors + delta }
  | .serverErrors => { s with serverErrors := s.serverErrors + delta }
  | .seeds => { s with seeds := s.seeds + delta }
  | .leeches => { s with leeches := s.leeches + delta }
  | .badActors => { s with badActors := s.badActors + delta }
  | .expiredPeers => { s with expiredPeers := s.expiredPeers + delta }
  | .expiredHashes => { s with expiredHashes := s.expiredHashes + delta }
  | .queueDrops => { s with queueDrops := s.queueDrops + delta }

def read (s : Stats) : Counter → Int64
  | .connects => s.connects
  | .announces => s.announces
  | .scrapes => s.scrapes
  | .clientErrors => s.clientErrors
  | .serverErrors => s.serverErrors
  | .seeds => s.seeds
  | .leeches => s.leeches
  | .badActors => s.badActors
  | .expiredPeers => s.expiredPeers
  | .expiredHashes => s.expiredHashes
  | .queueDrops => s.queueDrops

/-- The number of different addresses in use. -/
def uniqueIps (s : Stats) : Int64 := Int64.ofNat s.addresses.size

/-- All figures by their published names. -/
def report (s : Stats) : List (String × Int64) :=
  [("started", s.started)] ++ Counter.all.map (fun c => (c.label, s.read c))
    ++ [("unique_ips", s.uniqueIps)]

theorem read_add (s : Stats) (c d : Counter) (delta : Int64) :
    (s.add c delta).read d = if d = c then s.read d + delta else s.read d := by
  cases c <;> cases d <;> rfl

end Stats

end PeerTracker
