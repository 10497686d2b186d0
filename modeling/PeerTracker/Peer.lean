import PeerTracker.Event
import PeerTracker.Identifier
import PeerTracker.Net.AddressText
import PeerTracker.Bencode

/-!
# Peer records

What a swarm remembers of a peer. Reported totals never decrease while a record
lives. The compact form is the address in network order and the port; the verbose
form is a bencoded dictionary.
-/

namespace PeerTracker

structure Peer where
  ip : Net.IpAddr
  port : UInt16
  complete : Bool
  lastSeen : Int64
  uploaded : UInt64
  downloaded : UInt64
  /-- How many incomplete peers the swarm had after this peer's last save. -/
  leechersLastTime : UInt32
deriving DecidableEq, Repr

/-- What a peer reports, and when. -/
structure Update where
  ip : Net.IpAddr
  port : UInt16
  complete : Bool
  uploaded : UInt64
  downloaded : UInt64
  now : Int64
  /-- Whether the report comes from a baseline provider. -/
  provider : Bool
deriving DecidableEq, Repr

namespace Peer

/-- The record of no peer yet. -/
def blank : Peer := ⟨.unspecified, 0, false, 0, 0, 0, 0⟩

instance : Inhabited Peer := ⟨blank⟩

def maxTotal (a b : UInt64) : UInt64 := if a < b then b else a

/-- Takes over a report; the totals only grow. -/
def apply (p : Peer) (u : Update) : Peer where
  ip := u.ip
  port := u.port
  complete := u.complete
  lastSeen := u.now
  uploaded := maxTotal p.uploaded u.uploaded
  downloaded := maxTotal p.downloaded u.downloaded
  leechersLastTime := p.leechersLastTime

/-- A peer downloads more without uploading any more, in a swarm that had enough
peers to upload to. -/
def isBadActor (p : Peer) (u : Update) (minLeechers : UInt32) : Bool :=
  !u.complete && p.uploaded == u.uploaded && decide (p.downloaded < u.downloaded)
    && decide (minLeechers ≤ p.leechersLastTime)

/-- Unheard of for more than `timeout` seconds; the difference wraps. -/
def isExpired (now timeout : Int64) (p : Peer) : Bool := timeout < now - p.lastSeen

def compactSize (p : Peer) : Nat := if p.ip.isV4 then 6 else 18

def compact (p : Peer) : Bytes := p.ip.octets ++ BigEndian.encode 2 p.port.toNat

def verbose (id : PeerId) (withId : Bool) (p : Peer) : Bencode :=
  let named := if withId then [(ascii "peer id", Bencode.bytes id.bytes)] else []
  .dict ([(ascii "ip", .text p.ip.toText)] ++ named
    ++ [(ascii "port", .int p.port.toNat)])

theorem length_compact (p : Peer) : p.compact.length = p.compactSize := by
  unfold compact compactSize
  rw [List.length_append, Net.IpAddr.length_octets, BigEndian.length_encode]
  split <;> rfl

end Peer

end PeerTracker
