import PeerTracker.Snapshot.Record
import PeerTracker.Store

/-!
# Saving and restoring the store

A snapshot holds every swarm that has peers. Restoring replaces the swarms it
names: of two peer records with one id the first counts, of two provider records
the last, and an entry without peers is passed over. Counters are rebuilt from
the records.
-/

namespace PeerTracker.Store

open Snapshot

def swarmRecord (hash : InfoHash) (w : Swarm) : SwarmRecord :=
  ⟨hash, w.peers.entries.map fun e => .ofPeer e.1 e.2,
    w.providers.entries.map fun e => .ofPeer e.1 e.2⟩

/-- What is worth keeping of the store. -/
def snapshot (s : State) : List SwarmRecord :=
  (s.swarms.entries.filter fun e => !e.2.retired && !e.2.peers.isEmpty).map fun e =>
    swarmRecord e.1 e.2

/-- One more peer record of a swarm under construction. -/
def loadPeer (fast : Bool) (acc : Swarm × State) (r : PeerRecord) : Swarm × State :=
  let (w, s) := acc
  if w.peers.contains r.id then (w, s)
  else
    let (_, pools) := s.pools.getPeer
    ({ w.countNew r.complete with peers := w.peers.insert r.id r.toPeer },
      { s with pools := pools, stats := s.stats.track fast none r.complete r.ip })

/-- One more provider record of a swarm under construction. -/
def loadProvider (acc : Swarm × State) (r : PeerRecord) : Swarm × State :=
  let (w, s) := acc
  let (_, pools) := s.pools.getPeer
  ({ w with providers := w.providers.insert r.id r.toPeer },
    { s with pools := pools }.parkAll (w.providers.get? r.id).toList)

/-- Puts a finished swarm in place of what the store has under its hash. -/
def replace (fast : Bool) (s : State) (hash : InfoHash) (w : Swarm) : State :=
  match s.swarm? hash with
  | none => s.setSwarm hash w
  | some old => retire fast (s.setSwarm hash w) old

/-- Loads one entry; counts its peers and itself. -/
def loadEntry (fast : Bool) (acc : (Nat × Nat) × State) (r : SwarmRecord) :
    (Nat × Nat) × State :=
  let ((peers, hashes), s) := acc
  let (w, s) := r.peers.foldl (loadPeer fast) (∅, s)
  if w.peers.isEmpty then ((peers, hashes), s)
  else
    let (w, s) := r.providers.foldl loadProvider (w, s)
    ((peers + w.peers.size, hashes + 1), replace fast s r.hash w)

/-- Loads entries in order; returns how many peers and swarms they held. -/
def load (rules : StoreRules) (s : State) (records : List SwarmRecord) : (Nat × Nat) × State :=
  records.foldl (loadEntry rules.fast) ((0, 0), s)

/-- Loads a snapshot in bytes; one that cannot be read changes nothing. -/
def restore (rules : StoreRules) (s : State) (bs : Bytes) :
    Except Snapshot.Error (Nat × Nat) × State :=
  match Snapshot.decode bs with
  | .error e => (.error e, s)
  | .ok records =>
    let (loaded, s) := load rules s records
    (.ok loaded, s)

end PeerTracker.Store
