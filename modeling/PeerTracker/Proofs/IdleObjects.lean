import PeerTracker.Proofs.Demands
import PeerTracker.Proofs.Records

/-!
# Idle objects

Everything that is parked is first brought back to its initial shape, so that it does not
matter where it has been: not whether it came out of a pool, nor which, nor what was written
into it. All that is done to the pools is to take objects out and to park some
(`Handling.apply`), which keeps idle objects as they are made (`Pools.Unused`); the store and
the transports do nothing else either. So what comes out of a pool is as good as what it would
make afresh.
-/

namespace PeerTracker

namespace Pools

variable {limit : Nat} {p : Pools}

/-- Idle objects are as they are made. -/
structure Unused (limit : Nat) (p : Pools) : Prop where
  restored : p.Restored limit
  clean : p.Clean

theorem unused_fresh (limit : Nat) : Unused limit { listLimit := limit } where
  restored := restored_fresh limit
  clean := fun _ h => absurd h List.not_mem_nil

theorem peerStable_unused (limit : Nat) : PeerStable (Unused limit) where
  get := fun p h => ⟨(peerStable_restored limit).get p h.restored, peerStable_clean.get p h.clean⟩
  put := fun p x h =>
    ⟨(peerStable_restored limit).put p x h.restored, peerStable_clean.put p x h.clean⟩

/-- No records are touched, and buffers stay as they are made. -/
theorem Unused.congr {q : Pools} (h : p.Unused limit) (hrestored : q.Restored limit)
    (hpeers : q.peers = p.peers) : q.Unused limit where
  restored := hrestored
  clean := by
    rw [Clean, hpeers]
    exact h.clean

end Pools

/-! ## What the tracker does itself -/

theorem State.Steady.unused {limit : Nat} {s t : State} (h : s.Steady t)
    (hs : s.pools.Unused limit) : t.pools.Unused limit :=
  hs.congr (h.restored limit hs.restored) h.parked

theorem State.Performs.unused {limit : Nat} {rules : StoreRules} {as : List Action} {s t : State}
    (h : Performs rules as s t) (hs : s.pools.Unused limit) : t.pools.Unused limit :=
  h.keeps (P := fun s => s.pools.Unused limit) (fun _ _ hsteady => hsteady.unused)
    (fun _ a _ hs => a.pools_exec (Pools.peerStable_unused limit) rules hs) hs

/-! ## What others do -/

/-- What may be done with pools from outside: to take an object out, to park one from anywhere,
and to park what was kept of a result or of a reply. -/
inductive Handling where
  | takeList4
  | takeList6
  | takeHint
  | takeEncoder
  | takePeer
  | parkList4 (b : Buffer)
  | parkList6 (b : Buffer)
  | parkHint (b : Buffer)
  | parkEncoder (b : Buffer)
  | parkPeer (x : Peer)
  | recycle (reply : AnnounceResult)
  /-- All of a result but the compact peers of one family. -/
  | reduce (reply : AnnounceResult) (v4 : Bool)
  | recycleReply (r : Udp.Response)

namespace Handling

def apply (p : Pools) : Handling → Pools
  | takeList4 => p.getList4.2
  | takeList6 => p.getList6.2
  | takeHint => p.getHint.2
  | takeEncoder => p.getEncoder.2
  | takePeer => p.getPeer.2
  | parkList4 b => p.putList4 b
  | parkList6 b => p.putList6 b
  | parkHint b => p.putHint b
  | parkEncoder b => p.putEncoder b
  | parkPeer x => p.putPeer x
  | recycle reply => reply.recycle p
  | reduce reply v4 => (reply.intoCompact v4 p).2
  | recycleReply r => r.recycle p

theorem unused_apply {limit : Nat} {p : Pools} (h : p.Unused limit) (action : Handling) :
    (action.apply p).Unused limit := by
  have hrestored := h.restored
  cases action with
  | takeList4 => exact h.congr hrestored.getList4.2 rfl
  | takeList6 => exact h.congr hrestored.getList6.2 rfl
  | takeHint => exact h.congr hrestored.getHint.2 rfl
  | takeEncoder => exact h.congr hrestored.getEncoder.2 rfl
  | takePeer => exact (Pools.peerStable_unused limit).get p h
  | parkList4 b => exact h.congr (hrestored.putList4 b) rfl
  | parkList6 b => exact h.congr (hrestored.putList6 b) rfl
  | parkHint b => exact h.congr (hrestored.putHint b) rfl
  | parkEncoder b => exact h.congr (hrestored.putEncoder b) rfl
  | parkPeer x => exact (Pools.peerStable_unused limit).put p x h
  | recycle reply => exact h.congr (reply.restored_recycle hrestored) (reply.peers_recycle p)
  | reduce reply v4 =>
      exact h.congr (reply.restored_intoCompact hrestored v4) (reply.peers_intoCompact v4 p)
  | recycleReply r =>
      cases r with
      | announce4 a => exact h.congr (hrestored.putList4 _) rfl
      | announce6 a => exact h.congr (hrestored.putList6 _) rfl
      | _ => exact h

end Handling

/-- A tracker comes from one state to another by demands and by receiving datagrams of which the
replies are not sent yet, while its pools are handled by others, and by finding its tables in
another order. -/
inductive Handled (rules : Rules) (start : State) : State → Prop where
  | refl : Handled rules start start
  | serve {s : State} (d : Demand) : Handled rules start s → Handled rules start (d.exec rules s)
  | receive {s : State} (remote : Net.Endpoint) (usePayloadIp : Bool) (now : Int64) (d : Bytes) :
      Handled rules start s →
        Handled rules start (Udp.handle rules remote usePayloadIp now d s).2
  | send {s : State} (r : Udp.Response) : Handled rules start s → Handled rules start (r.send s).2
  | handle {s : State} (action : Handling) :
      Handled rules start s → Handled rules start { s with pools := action.apply s.pools }
  | reorder {s t : State} : Handled rules start s → s.Reordered t → Handled rules start t

theorem Leads.handled {rules : Rules} {Allowed : Demand → Prop} {start s : State}
    (h : Leads rules Allowed start s) : Handled rules start s := by
  induction h with
  | refl => exact .refl
  | serve d _ _ ih => exact .serve d ih
  | reorder _ hreordered ih => exact .reorder ih hreordered

theorem Handled.unused {limit : Nat} {rules : Rules} {start s : State}
    (h : Handled rules start s) (hstart : start.pools.Unused limit) : s.pools.Unused limit := by
  induction h with
  | refl => exact hstart
  | serve d _ ih => exact (d.performs rules _).unused ih
  | @receive s remote usePayloadIp now d _ ih =>
      have hsteady := Udp.steady_handle rules remote usePayloadIp now s d
      exact (Demand.performs_announcement rules s hsteady).unused ih
  | send r _ ih => exact (r.steady_send _).unused ih
  | handle action _ ih => exact action.unused_apply ih
  | reorder _ hreordered ih => exact hreordered.pools ▸ ih

/-! ## Idle objects -/

namespace Pools

/-- Records are blank and buffers empty, and the buffers of lists and hints have room for what
is written into them. -/
structure Initial (limit : Nat) (p : Pools) : Prop where
  peers : ∀ x ∈ p.peers.idle, x = .blank
  lists4 : ∀ b ∈ p.lists4.idle, b.bytes = [] ∧ 6 * limit ≤ b.capacity
  lists6 : ∀ b ∈ p.lists6.idle, b.bytes = [] ∧ 18 * limit ≤ b.capacity
  hints : ∀ b ∈ p.hints.idle, b.bytes = [] ∧ 18 ≤ b.capacity
  encoders : ∀ b ∈ p.encoders.idle, b.bytes = []

/-- What is got from `p` is as good as what is got from `q`: the same but for capacity, of which
there is no less in lists and hints. -/
structure GetsAs (p q : Pools) : Prop where
  peer : p.getPeer.1 = q.getPeer.1
  list4 : p.getList4.1.bytes = q.getList4.1.bytes ∧
    q.getList4.1.capacity ≤ p.getList4.1.capacity
  list6 : p.getList6.1.bytes = q.getList6.1.bytes ∧
    q.getList6.1.capacity ≤ p.getList6.1.capacity
  hint : p.getHint.1.bytes = q.getHint.1.bytes ∧ q.getHint.1.capacity ≤ p.getHint.1.capacity
  encoder : p.getEncoder.1.bytes = q.getEncoder.1.bytes

variable {limit : Nat} {p q : Pools}

theorem Unused.initial (h : p.Unused limit) : p.Initial limit where
  peers := h.clean
  lists4 := fun b hb => by
    rw [h.restored.lists4 b hb]
    exact ⟨rfl, Nat.le_refl _⟩
  lists6 := fun b hb => by
    rw [h.restored.lists6 b hb]
    exact ⟨rfl, Nat.le_refl _⟩
  hints := fun b hb => by
    rw [h.restored.hints b hb]
    exact ⟨rfl, Nat.le_refl _⟩
  encoders := h.restored.encoders

/-- It does not matter what was parked. -/
theorem Unused.getsAs (hp : p.Unused limit) (hq : q.Unused limit) : p.GetsAs q where
  peer := hp.clean.getPeer.1.trans hq.clean.getPeer.1.symm
  list4 := by
    rw [hp.restored.getList4.1, hq.restored.getList4.1]
    exact ⟨rfl, Nat.le_refl _⟩
  list6 := by
    rw [hp.restored.getList6.1, hq.restored.getList6.1]
    exact ⟨rfl, Nat.le_refl _⟩
  hint := by
    rw [hp.restored.getHint.1, hq.restored.getHint.1]
    exact ⟨rfl, Nat.le_refl _⟩
  encoder := hp.restored.getEncoder.1.trans hq.restored.getEncoder.1.symm

end Pools

/-- **Idle objects are in their initial shape.** Start from a fresh tracker. Let it serve any
demands over any transport, receive datagrams and send replies at other times, and find its
tables in any order, and let anybody take objects out of its pools and park any there, whole
results and replies or parts of them, buffers of whatever content and capacity, records of
whomever. Then idle records are blank and idle buffers are empty, with the capacity for as many
peers as a reply may list, or for one hint. So all that is got from the pools is as the fresh
tracker would get it. -/
theorem idle_objects_are_initial (rules : Rules) (limit : Nat) (random : RandomSource) {s : State}
    (hs : Handled rules (.fresh limit random) s) :
    s.pools.Initial limit ∧ s.pools.GetsAs (State.fresh limit random).pools := by
  have hfresh : (State.fresh limit random).pools.Unused limit := Pools.unused_fresh limit
  exact ⟨(hs.unused hfresh).initial, (hs.unused hfresh).getsAs hfresh⟩

/-- A peer joins and stops, its record and buffers are parked, and so is a list from elsewhere
that is full: the two lists that are idle then are empty, and so is the next that is got. -/
theorem idle_objects_are_initial_foreign :
    let rules := Rules.ofSettings {} []
    let start := State.fresh 100 (.ofList [])
    let q := sampleAnnouncement .zero
    let s := (Demand.announce { q with event := .stopped } 2 true).exec rules
      ((Demand.announce q 1 true).exec rules start)
    let t : State := { s with pools := (Handling.parkList4 ⟨[1, 2, 3], 3⟩).apply s.pools }
    Handled rules start t ∧ t.pools.lists4.size = 2 ∧ t.pools.peers.size = 1 ∧
      t.pools.Initial 100 ∧ t.pools.getList4.1.bytes = [] ∧ t.pools.getPeer.1 = .blank := by
  intro rules start q s t
  have hs : Reachable rules start s := .serve _ (.serve _ .refl trivial) trivial
  have ht : Handled rules start t := .handle _ hs.handled
  have hlists : t.pools.lists4.size = 2 := by decide +kernel
  have hpeers : t.pools.peers.size = 1 := by decide +kernel
  obtain ⟨hinitial, hgets⟩ := idle_objects_are_initial rules 100 (.ofList []) ht
  exact ⟨ht, hlists, hpeers, hinitial, hgets.list4.1, hgets.peer⟩

end PeerTracker
