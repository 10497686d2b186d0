import PeerTracker.Error
import PeerTracker.Rules

/-!
# Announcing

An announce registers a peer, refreshes it, or removes it when it stops, and
answers with other peers of the swarm. Identifiers are checked first; a stop needs
nothing more, anything else needs a port and a sensible number of wanted peers.
-/

namespace PeerTracker

structure Announcement where
  infoHash : Bytes
  peerId : Bytes
  port : Int64
  event : Event
  /-- How many peers are wanted, if that was said. -/
  wanted : Option Int64
  uploaded : UInt64
  downloaded : UInt64
  left : Option UInt64
  compact : Bool
  noPeerId : Bool
  ip : Net.IpAddr
deriving DecidableEq

/-- The peers of a reply. -/
inductive PeerListing where
  | compact (v4 v6 : Buffer)
  | verbose (entries : List Bytes)
deriving DecidableEq, Repr

namespace PeerListing

/-- The number of peers listed. -/
def count : PeerListing → Nat
  | compact v4 v6 => v4.bytes.length / 6 + v6.bytes.length / 18
  | verbose entries => entries.length

end PeerListing

structure AnnounceResult where
  interval : Int64
  complete : UInt32
  incomplete : UInt32
  peers : PeerListing
  hint : Option Hint
  badActor : Bool
deriving DecidableEq, Repr

inductive AnnounceOutcome where
  | stopped
  | announced (reply : AnnounceResult)
deriving DecidableEq, Repr

namespace Announce

/-- A port that fits, zero not being one. -/
def port? (n : Int64) : Option UInt16 :=
  if 0 < n.toInt ∧ n.toInt < UInt16.size then some (UInt16.ofNat n.toInt.toNat) else none

/-- Unsaid means the default; more than the limit means the limit. -/
def resolveWanted (r : Rules) : Option Int64 → Except Refusal Nat
  | none => .ok r.numwantDefault
  | some n =>
    if n.toInt < 0 then .error .badNumwant
    else .ok (min n.toInt.toNat r.numwantLimit)

/-- The interval, lengthened at random if there is fuzz. -/
def interval (r : Rules) (s : State) : Int64 × State :=
  if r.fuzz = 0 then (r.interval, s)
  else
    let (extra, s) := s.draw r.fuzz
    (r.interval + extra.toInt64, s)

/-- What a request says about its peer. -/
def update (q : Announcement) (ip : Net.IpAddr) (port : UInt16) (provider : Bool)
    (now : Int64) : Update where
  ip := ip
  port := port
  complete := q.event = .completed || q.left = some 0
  uploaded := q.uploaded
  downloaded := q.downloaded
  now := now
  provider := provider

/-- The peers of a reply; compact ones are written into pooled buffers. -/
def listing (q : Announcement) (s : State) (hash : InfoHash) (wanted : Nat) :
    PeerListing × State :=
  if q.compact then
    let (b4, pools) := s.pools.getList4
    let (b6, pools) := pools.getList6
    let s := { s with pools := pools }
    let (_, b4, b6) := Store.peerListBytes s hash wanted b4 b6
    (.compact b4 b6, s)
  else (.verbose (Store.peerList s hash wanted (!q.noPeerId)), s)

/-- A provider to hint at; a complete provider gets none. -/
def hint (q : Announcement) (s : State) (hash : InfoHash) (u : Update) :
    Option Hint × State :=
  if u.provider && u.complete then (none, s)
  else Store.baselineProvider s hash q.compact (!q.noPeerId)

/-- Saves the peer; a bad actor is counted. -/
def enroll (r : Rules) (s : State) (hash : InfoHash) (id : PeerId) (u : Update) : Bool × State :=
  let (badActor, s) := Store.save r.store s hash id u
  (badActor, if badActor then s.count .badActors 1 else s)

/-- Gathers the reply to a peer that was saved. -/
def answer (r : Rules) (q : Announcement) (hash : InfoHash) (u : Update) (wanted : Nat)
    (badActor : Bool) (s : State) : AnnounceResult × State :=
  let (complete, incomplete) := Store.hashStats s hash
  let (peers, s) := listing q s hash wanted
  let (hint, s) := hint q s hash u
  let (interval, s) := interval r s
  (⟨interval, complete, incomplete, peers, hint, badActor⟩, s)

/-- Saves the peer and gathers the reply. -/
def register (r : Rules) (q : Announcement) (s : State) (hash : InfoHash) (id : PeerId)
    (u : Update) (wanted : Nat) : AnnounceResult × State :=
  let (badActor, s) := enroll r s hash id u
  answer r q hash u wanted badActor s

/-- What an announce asks for once it is understood. -/
inductive Intent where
  | stop (hash : InfoHash) (id : PeerId) (provider : Bool)
  | join (hash : InfoHash) (id : PeerId) (u : Update) (wanted : Nat)

/-- Whether the announced endpoint is a provider's; without a port it is not. -/
def fromProvider (r : Rules) (q : Announcement) : Bool :=
  (port? q.port).any (r.isProvider q.ip.canonical)

/-- Understands a request, or tells what is wrong with it. -/
def intent (r : Rules) (q : Announcement) (now : Int64) : Except Refusal Intent :=
  match Identifier.ofBytes? q.infoHash with
  | none => .error .badHash
  | some hash =>
    match Identifier.ofBytes? q.peerId with
    | none => .error .badPeerId
    | some id =>
      let provider := fromProvider r q
      if q.event = .stopped then .ok (.stop hash id provider)
      else match port? q.port with
        | none => .error .badPort
        | some port =>
          match resolveWanted r q.wanted with
          | .error e => .error e
          | .ok wanted => .ok (.join hash id (update q q.ip.canonical port provider now) wanted)

def process (r : Rules) (q : Announcement) (now : Int64) (s : State) :
    Except Refusal AnnounceOutcome × State :=
  match intent r q now with
  | .error e => (.error e, s)
  | .ok (.stop hash id provider) => (.ok .stopped, Store.drop r.store s hash id provider)
  | .ok (.join hash id u wanted) =>
    let (reply, s) := register r q s hash id u wanted
    (.ok (.announced reply), s)

end Announce

/-- Counts a refusal. -/
def State.countRefusal {α : Type} (outcome : Except Refusal α) (s : State) : State :=
  match outcome with
  | .error e => s.count e.counter 1
  | .ok _ => s

/-- Handles an announce and counts it. -/
def announce (r : Rules) (q : Announcement) (now : Int64) (s : State) :
    Except Refusal AnnounceOutcome × State :=
  let (outcome, s) := Announce.process r q now (s.count .announces 1)
  (outcome, s.countRefusal outcome)

namespace AnnounceResult

/-- Parks the buffer of a hint. -/
def recycleHint (reply : AnnounceResult) (pools : Pools) : Pools :=
  match reply.hint with
  | some (.compact b) => pools.putHint b
  | _ => pools

/-- Parks every buffer of a reply that was sent. -/
def recycle (reply : AnnounceResult) (pools : Pools) : Pools :=
  let pools := match reply.peers with
    | .compact v4 v6 => (pools.putList4 v4).putList6 v6
    | .verbose _ => pools
  reply.recycleHint pools

/-- Keeps the compact peers of one family and parks everything else. -/
def intoCompact (reply : AnnounceResult) (v4 : Bool) (pools : Pools) : Buffer × Pools :=
  let pools := reply.recycleHint pools
  match reply.peers with
  | .compact b4 b6 => if v4 then (b4, pools.putList6 b6) else (b6, pools.putList4 b4)
  | .verbose _ => ({}, pools)

end AnnounceResult

end PeerTracker
