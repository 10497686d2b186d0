import PeerTracker.Store.Bookkeeping

/-!
# The peer store

Saving, dropping, listing and expiring peers. A swarm comes into being with its
first save and leaves with the sweep that finds it without peers; dropping and
reading never create one. Lists follow the order of the swarm's table.
-/

namespace PeerTracker

/-- How the store judges and counts. -/
structure StoreRules where
  /-- Incomplete peers a swarm must have had before a peer can be a bad actor. -/
  minLeechers : UInt32
  /-- Leaves out the bookkeeping over all swarms. -/
  fast : Bool
deriving DecidableEq, Repr, Inhabited

/-- Records removed by a sweep. -/
structure Trimmed where
  peers : Nat := 0
  providers : Nat := 0
  hashes : Nat := 0
deriving DecidableEq, Repr, Inhabited

instance : Add Trimmed := ⟨fun a b =>
  ⟨a.peers + b.peers, a.providers + b.providers, a.hashes + b.hashes⟩⟩

/-- A provider handed out with a reply. -/
inductive Hint where
  | compact (buffer : Buffer)
  | verbose (entry : Bytes)
deriving DecidableEq, Repr

namespace Store

/-- The swarm a save goes to: a retired one is replaced by an empty one. -/
def openSwarm (s : State) (hash : InfoHash) : Swarm :=
  match s.swarm? hash with
  | some w => if w.retired then ∅ else w
  | none => ∅

/-- The record under `id`, a fresh or reused blank one if there is none. -/
def record (t : Table PeerId Peer) (id : PeerId) (pools : Pools) : Peer × Pools :=
  match t.get? id with
  | some p => (p, pools)
  | none => pools.getPeer

/-- The swarm's own counters after a report. -/
def recount (w : Swarm) (id : PeerId) (complete : Bool) : Swarm :=
  match w.peers.get? id with
  | some p => w.transition p.complete complete
  | none => w.countNew complete

/-- Writes a report into the swarm's peers; the counters come first, since the
record remembers how many incomplete peers there are now. -/
def savePeer (w : Swarm) (id : PeerId) (p : Peer) (u : Update) : Swarm :=
  let counted := recount w id u.complete
  { counted with
    peers := w.peers.insert id { p.apply u with leechersLastTime := counted.incomplete } }

/-- Writes a provider's report into its own table too. -/
def saveProvider (w : Swarm) (id : PeerId) (u : Update) (pools : Pools) : Swarm × Pools :=
  if u.provider then
    let (p, pools) := record w.providers id pools
    ({ w with providers := w.providers.insert id (p.apply u) }, pools)
  else (w, pools)

/-- Registers or refreshes a peer; tells whether the report looks like a bad
actor's. -/
def save (rules : StoreRules) (s : State) (hash : InfoHash) (id : PeerId) (u : Update) :
    Bool × State :=
  let w := openSwarm s hash
  let (p, pools) := record w.peers id s.pools
  let (w', pools) := saveProvider (savePeer w id p u) id u pools
  (p.isBadActor u rules.minLeechers,
    { s with
      swarms := s.swarms.insert hash w'
      pools := pools
      stats := s.stats.track rules.fast (w.peers.get? id) u.complete u.ip })

/-- Forgets a provider record. -/
def dropProvider (s : State) (hash : InfoHash) (w : Swarm) (id : PeerId) : Swarm × State :=
  match w.providers.get? id with
  | none => (w, s)
  | some p =>
    let w' := { w with providers := w.providers.erase id }
    (w', (s.setSwarm hash w').parkAll [p])

/-- Forgets a peer, and its provider record too if `provider` is set. -/
def drop (rules : StoreRules) (s : State) (hash : InfoHash) (id : PeerId) (provider : Bool) :
    State :=
  match s.swarm? hash with
  | none => s
  | some w =>
    let (w, s) := if provider then dropProvider s hash w id else (w, s)
    match w.remove id with
    | (none, _) => s
    | (some p, w') => (s.setSwarm hash w').release rules.fast p

/-- Complete and incomplete peers of a swarm, zero if it is unknown. -/
def hashStats (s : State) (hash : InfoHash) : UInt32 × UInt32 :=
  match s.swarm? hash with
  | none => (0, 0)
  | some w => (w.complete, w.incomplete)

/-- The peers of a swarm with their ids, in the order of its table. -/
def listed (s : State) (hash : InfoHash) : List (PeerId × Peer) :=
  match s.swarm? hash with
  | none => []
  | some w => w.peers.entries

/-- Up to `wanted` peers as dictionaries. -/
def peerList (s : State) (hash : InfoHash) (wanted : Nat) (withIds : Bool) : List Bytes :=
  ((listed s hash).take wanted).map fun e => (e.2.verbose e.1 withIds).encode

/-- Writes peers into the buffer of their family until `wanted` are written or
one does not fit. -/
def fill : (wanted : Nat) → List Peer → Buffer → Buffer → Nat × Buffer × Buffer
  | 0, _, b4, b6 => (0, b4, b6)
  | _, [], b4, b6 => (0, b4, b6)
  | n + 1, p :: rest, b4, b6 =>
    let target := if p.ip.isV4 then b4 else b6
    if target.fits p.compactSize then
      let (written, b4', b6') :=
        if p.ip.isV4 then fill n rest (b4.append p.compact) b6
        else fill n rest b4 (b6.append p.compact)
      (written + 1, b4', b6')
    else (0, b4, b6)

/-- Up to `wanted` peers in compact form, by family; the buffers are emptied
first and never grow. -/
def peerListBytes (s : State) (hash : InfoHash) (wanted : Nat) (b4 b6 : Buffer) :
    Nat × Buffer × Buffer :=
  fill wanted ((listed s hash).map Prod.snd) b4.clear b6.clear

/-- One provider of the swarm, picked at random; `none` if it has none. -/
def pickProvider (s : State) (hash : InfoHash) : Option (PeerId × Peer) × State :=
  match s.swarm? hash with
  | none => (none, s)
  | some w =>
    if w.providers.isEmpty then (none, s)
    else
      let (i, s) := s.draw (UInt64.ofNat w.providers.size)
      (w.providers.entries[i.toNat]?, s)

/-- A provider in the wanted form; a compact one is written into a pooled
buffer. -/
def baselineProvider (s : State) (hash : InfoHash) (compact withIds : Bool) :
    Option Hint × State :=
  match pickProvider s hash with
  | (none, s) => (none, s)
  | (some (id, p), s) =>
    if compact then
      let (b, pools) := s.pools.getHint
      (some (.compact (b.append p.compact)), { s with pools := pools })
    else (some (.verbose (p.verbose id withIds).encode), s)

/-- Empties a swarm that left the store, and marks it as gone. -/
def retire (fast : Bool) (s : State) (w : Swarm) : State :=
  let (gone, w) := { w with retired := true }.removeAll w.peers.keys
  (gone.foldl (State.release fast) s).parkAll w.providers.values

/-- The swarm without what has expired, and what has. -/
def expire (now timeout : Int64) (w : Swarm) : Swarm × List Peer × List Peer :=
  let expired := w.peers.filter fun _ p => p.isExpired now timeout
  let (gone, w) := w.removeAll expired.keys
  ({ w with providers := w.providers.filter fun _ p => !p.isExpired now timeout },
    gone, w.providers.values.filter (Peer.isExpired now timeout))

/-- Expires the records of one swarm. Without peers it gives up its providers too and
is marked, which means that it has to leave the store. -/
def trimSwarm (fast : Bool) (now timeout : Int64) (s : State) (w : Swarm) :
    Trimmed × Swarm × State :=
  let (w, gone, goneProviders) := expire now timeout w
  let s := (gone.foldl (State.release fast) s).parkAll goneProviders
  if w.peers.isEmpty && !w.retired then
    (⟨gone.length, goneProviders.length, 1⟩, { w with providers := ∅, retired := true },
      s.parkAll w.providers.values)
  else (⟨gone.length, goneProviders.length, 0⟩, w, s)

/-- Trims the swarm under a hash, which leaves the store if that marked it. -/
def trimHash (fast : Bool) (now timeout : Int64) (acc : Trimmed × State)
    (e : InfoHash × Swarm) : Trimmed × State :=
  let (t, w, s) := trimSwarm fast now timeout acc.2 e.2
  let s := s.setSwarm e.1 w
  (acc.1 + t, if t.hashes = 0 then s else { s with swarms := s.swarms.erase e.1 })

/-- Removes every record unheard of for more than `timeout` seconds, and every
swarm without peers. -/
def trim (rules : StoreRules) (s : State) (now timeout : Int64) : Trimmed × State :=
  s.swarms.entries.foldl (trimHash rules.fast now timeout) ({}, s)

end Store

end PeerTracker
