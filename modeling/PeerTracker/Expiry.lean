import PeerTracker.Rules

/-!
# Sweeping

A sweep trims the store by the configured timeout and counts what it removed.
Sweeps are one interval apart, the first after one interval.
-/

namespace PeerTracker

def sweep (r : Rules) (now : Int64) (s : State) : Trimmed × State :=
  let (t, s) := Store.trim r.store s now r.timeout
  (t, (s.count .expiredPeers (Int64.ofNat t.peers)).count .expiredHashes (Int64.ofNat t.hashes))

/-- How often something due every `interval` seconds happens within `seconds` and
a half; with no interval it would never pause, so it is not started. -/
def occasions (interval seconds : Nat) : Nat :=
  if interval = 0 then 0 else seconds / interval

/-- `n` sweeps at the times `clock 0`, `clock 1`, … -/
def sweeps (r : Rules) (clock : Nat → Int64) : (n : Nat) → State → State
  | 0, s => s
  | n + 1, s => (sweep r (clock n) (sweeps r clock n s)).2

end PeerTracker
