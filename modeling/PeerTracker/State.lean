import PeerTracker.Pool
import PeerTracker.Random
import PeerTracker.Stats
import PeerTracker.Swarm

/-!
# The state of a tracker

The swarms by info hash, the pools that records and reply buffers come from and
go back to, the counters, and the source of random numbers.
-/

namespace PeerTracker

structure State where
  swarms : Table InfoHash Swarm := ∅
  pools : Pools
  stats : Stats := {}
  random : RandomSource

namespace State

/-- A tracker that has done nothing yet. -/
def fresh (listLimit : Nat) (random : RandomSource) : State :=
  { pools := { listLimit := listLimit }, random := random }

def swarm? (s : State) (hash : InfoHash) : Option Swarm := s.swarms.get? hash

def setSwarm (s : State) (hash : InfoHash) (w : Swarm) : State :=
  { s with swarms := s.swarms.insert hash w }

def count (s : State) (c : Counter) (delta : Int64) : State :=
  { s with stats := s.stats.add c delta }

/-- A random number below `bound`. -/
def draw (s : State) (bound : UInt64) : UInt64 × State :=
  let (x, r) := s.random.below bound
  (x, { s with random := r })

/-- The number of swarms. -/
def hashes (s : State) : Nat := s.swarms.size

/-- The number of peers over all swarms. -/
def peers (s : State) : Nat := s.swarms.values.foldr (fun w n => w.peers.size + n) 0

/-- The counters as published, with the size of the store. -/
def report (s : State) : List (String × Int64) × Nat × Nat :=
  (s.stats.report, s.hashes, s.peers)

end State

end PeerTracker
