import PeerTracker.Peer

/-!
# Pools

A pool parks values for reuse and hands out the one parked longest. What is
parked is reset first, so a reused value is as good as a fresh one.

A buffer has a capacity beside its content. Resetting a pooled buffer empties it
and gives it exactly the capacity of its pool again.
-/

namespace PeerTracker

structure Pool (α : Type) where
  idle : List α := []
deriving DecidableEq

namespace Pool

variable {α : Type}

instance : Inhabited (Pool α) := ⟨{}⟩

/-- The value parked longest, a fresh one if none is parked. -/
def get (fresh : α) (p : Pool α) : α × Pool α :=
  match p.idle with
  | [] => (fresh, p)
  | x :: rest => (x, ⟨rest⟩)

def put (reset : α → α) (x : α) (p : Pool α) : Pool α := ⟨p.idle ++ [reset x]⟩

def size (p : Pool α) : Nat := p.idle.length

def describe (p : Pool α) (resets : Bool) : String :=
  "ObjectPool \x7b idle: " ++ toString p.size ++ ", reset: " ++ toString resets ++ " \x7d"

end Pool

structure Buffer where
  bytes : Bytes := []
  capacity : Nat := 0
deriving DecidableEq, Repr, Inhabited

namespace Buffer

def withCapacity (n : Nat) : Buffer := ⟨[], n⟩

def clear (b : Buffer) : Buffer := { b with bytes := [] }

/-- Lowers the capacity to `n`, or to what the content needs. -/
def shrinkTo (n : Nat) (b : Buffer) : Buffer :=
  { b with capacity := min b.capacity (max b.bytes.length n) }

/-- Makes room for `n` more octets. -/
def reserve (n : Nat) (b : Buffer) : Buffer :=
  { b with capacity := max b.capacity (b.bytes.length + n) }

/-- Grows if it has to. -/
def append (b : Buffer) (bs : Bytes) : Buffer :=
  ⟨b.bytes ++ bs, max b.capacity (b.bytes.length + bs.length)⟩

/-- Whether `n` more octets fit without growing. -/
def fits (b : Buffer) (n : Nat) : Bool := b.bytes.length + n ≤ b.capacity

/-- Empty, with capacity `n`. -/
def reset (n : Nat) (b : Buffer) : Buffer := reserve n (shrinkTo n b.clear)

theorem reset_eq (n : Nat) (b : Buffer) : reset n b = withCapacity n := by
  simp only [reset, clear, shrinkTo, reserve, withCapacity, List.length_nil]
  congr 1
  omega

end Buffer

/-- The pools of a tracker. -/
structure Pools where
  /-- The most peers a reply may list. -/
  listLimit : Nat
  lists4 : Pool Buffer := {}
  lists6 : Pool Buffer := {}
  hints : Pool Buffer := {}
  encoders : Pool Buffer := {}
  peers : Pool Peer := {}
deriving DecidableEq, Inhabited

namespace Pools

/-- The capacity of a list of compact IPv4 peers. -/
def capacity4 (p : Pools) : Nat := 6 * p.listLimit

/-- The capacity of a list of compact IPv6 peers. -/
def capacity6 (p : Pools) : Nat := 18 * p.listLimit

/-- A hint is one compact peer of either family. -/
def hintCapacity : Nat := 18

def encoderCapacity : Nat := 512

def getList4 (p : Pools) : Buffer × Pools :=
  let (b, pool) := p.lists4.get (.withCapacity p.capacity4)
  (b, { p with lists4 := pool })

def putList4 (p : Pools) (b : Buffer) : Pools :=
  { p with lists4 := p.lists4.put (Buffer.reset p.capacity4) b }

def getList6 (p : Pools) : Buffer × Pools :=
  let (b, pool) := p.lists6.get (.withCapacity p.capacity6)
  (b, { p with lists6 := pool })

def putList6 (p : Pools) (b : Buffer) : Pools :=
  { p with lists6 := p.lists6.put (Buffer.reset p.capacity6) b }

def getHint (p : Pools) : Buffer × Pools :=
  let (b, pool) := p.hints.get (.withCapacity hintCapacity)
  (b, { p with hints := pool })

def putHint (p : Pools) (b : Buffer) : Pools :=
  { p with hints := p.hints.put (Buffer.reset hintCapacity) b }

def getEncoder (p : Pools) : Buffer × Pools :=
  let (b, pool) := p.encoders.get (.withCapacity encoderCapacity)
  (b, { p with encoders := pool })

def putEncoder (p : Pools) (b : Buffer) : Pools :=
  { p with encoders := p.encoders.put Buffer.clear b }

def getPeer (p : Pools) : Peer × Pools :=
  let (x, pool) := p.peers.get .blank
  (x, { p with peers := pool })

def putPeer (p : Pools) (x : Peer) : Pools :=
  { p with peers := p.peers.put (fun _ => .blank) x }

def putPeers (p : Pools) (xs : List Peer) : Pools := xs.foldl putPeer p

def describe (p : Pools) : String :=
  "Pools \x7b peerlists4: " ++ p.lists4.describe true ++ ", peerlists6: "
    ++ p.lists6.describe true ++ ", baseline_providers: " ++ p.hints.describe true
    ++ ", encoders: " ++ p.encoders.describe true ++ ", peers: " ++ p.peers.describe true
    ++ " \x7d"

end Pools

end PeerTracker
