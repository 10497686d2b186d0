import PeerTracker.Settings
import PeerTracker.Store
import PeerTracker.Udp.ConnectionId

/-!
# Rules of a running tracker

What the services read of the settings, in the form in which they use it: seconds
as signed words, limits as numbers, providers as endpoints.
-/

namespace PeerTracker

structure Rules where
  interval : Int64
  fuzz : UInt64
  numwantDefault : Nat
  numwantLimit : Nat
  timeout : Int64
  /-- Seconds between sweeps. -/
  cleanupInterval : Nat
  store : StoreRules
  providers : List Net.Endpoint
  key : Udp.ConnectionKey

namespace Rules

def ofSettings (s : Settings) (secret : Bytes) : Rules where
  interval := s.tracker.announceInterval.toInt64
  fuzz := s.tracker.announceFuzz
  numwantDefault := s.tracker.numwantDefault.toNat
  numwantLimit := s.tracker.numwantLimit.toNat
  timeout := s.tracker.peersTimeout.toInt64
  cleanupInterval := s.tracker.peersCleanupInterval.toNat
  store := ⟨s.tracker.minLeechers, s.tracker.fastMode⟩
  providers := s.providers
  key := .ofLifetime secret s.connectionIdLifetime

/-- Whether an endpoint is a configured provider. -/
def isProvider (r : Rules) (ip : Net.IpAddr) (port : UInt16) : Bool :=
  r.providers.contains ⟨ip, port, 0⟩

end Rules

/-- A tracker that has done nothing yet, for these settings. -/
def State.ofSettings (s : Settings) (random : RandomSource) : State :=
  .fresh s.tracker.numwantLimit.toNat random

end PeerTracker
