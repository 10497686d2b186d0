import PeerTracker.Proofs.Runs

/-!
# What is parked

Whatever the store does, it does to the pools only by taking records out and parking
them; what that keeps (`PeerStable`), every action keeps. Buffers are taken and parked by
those who answer. A parked one was emptied and given the capacity of its pool again, so
one that comes out of a pool is as good as a new one (`Restored`), wherever it was before.
-/

namespace PeerTracker

namespace Pool

variable {α : Type} {P : α → Prop} {p : Pool α}

theorem get_induction {fresh : α} (hfresh : P fresh) (h : ∀ x ∈ p.idle, P x) :
    P (p.get fresh).1 ∧ ∀ x ∈ (p.get fresh).2.idle, P x := by
  unfold get
  cases hidle : p.idle with
  | nil => exact ⟨hfresh, h⟩
  | cons y rest =>
      rw [hidle] at h
      exact ⟨h y List.mem_cons_self, fun x hx => h x (List.mem_cons_of_mem _ hx)⟩

theorem put_induction {reset : α → α} {x : α} (hreset : P (reset x)) (h : ∀ x ∈ p.idle, P x) :
    ∀ y ∈ (p.put reset x).idle, P y := by
  intro y hy
  rcases List.mem_append.mp hy with hy | hy
  · exact h y hy
  · rw [List.mem_singleton.mp hy]
    exact hreset

theorem size_get (p : Pool α) (fresh : α) : (p.get fresh).2.size = p.size - 1 := by
  unfold get size
  cases h : p.idle with
  | nil => simp [h]
  | cons x rest => rfl

theorem size_put (p : Pool α) (reset : α → α) (x : α) : (p.put reset x).size = p.size + 1 :=
  List.length_append

end Pool

/-! ## Records -/

namespace Pools

/-- What taking a record out and parking one keep. -/
structure PeerStable (P : Pools → Prop) : Prop where
  get : ∀ p, P p → P p.getPeer.2
  put : ∀ p x, P p → P (p.putPeer x)

theorem PeerStable.putPeers {P : Pools → Prop} (hP : PeerStable P) {p : Pools} (h : P p)
    (xs : List Peer) : P (p.putPeers xs) := by
  induction xs generalizing p with
  | nil => exact h
  | cons x xs ih => exact ih (hP.put p x h)

end Pools

namespace Store

variable {P : Pools → Prop} (hP : Pools.PeerStable P)
include hP

theorem pools_record {pools : Pools} (h : P pools) (t : Table PeerId Peer) (id : PeerId) :
    P (record t id pools).2 := by
  unfold record
  cases t.get? id with
  | none => exact hP.get pools h
  | some p => exact h

theorem pools_foldl_release (fast : Bool) (ps : List Peer) {s : State} (h : P s.pools) :
    P (ps.foldl (State.release fast) s).pools := by
  induction ps generalizing s with
  | nil => exact h
  | cons p ps ih => exact ih (hP.put s.pools p h)

variable (rules : StoreRules) {s : State} (h : P s.pools)
include h

theorem pools_save (hash : InfoHash) (id : PeerId) (u : Update) :
    P (save rules s hash id u).2.pools := by
  have hfirst := pools_record hP h (openSwarm s hash).peers id
  show P (saveProvider _ id u (record (openSwarm s hash).peers id s.pools).2).2
  unfold saveProvider
  split
  · exact pools_record hP hfirst _ _
  · exact hfirst

theorem pools_drop (hash : InfoHash) (id : PeerId) (provider : Bool) :
    P (drop rules s hash id provider).pools := by
  cases hw : s.swarm? hash with
  | none =>
      rw [drop_of_none rules hw]
      exact h
  | some w =>
      rw [drop_eq rules hw]
      exact pools_foldl_release hP rules.fast _ (hP.putPeers h _)

theorem pools_trim (now timeout : Int64) : P (trim rules s now timeout).2.pools := by
  refine trim_induction (P := fun s => P s.pools) rules now timeout ?_ s h
  intro acc hash w hacc _
  have hgone := pools_foldl_release hP rules.fast (expire now timeout w).2.1 hacc
  have hexpired := hP.putPeers hgone (expire now timeout w).2.2
  simp only [trimHash, trimSwarm]
  split
  · exact hP.putPeers hexpired _
  · exact hexpired

omit h in
theorem pools_foldl_loadPeer (fast : Bool) (rs : List Snapshot.PeerRecord) {acc : Swarm × State}
    (h : P acc.2.pools) : P (rs.foldl (loadPeer fast) acc).2.pools := by
  induction rs generalizing acc with
  | nil => exact h
  | cons r rs ih =>
      apply ih
      simp only [loadPeer]
      split
      · exact h
      · exact hP.get acc.2.pools h

omit h in
theorem pools_foldl_loadProvider (rs : List Snapshot.PeerRecord) {acc : Swarm × State}
    (h : P acc.2.pools) : P (rs.foldl loadProvider acc).2.pools := by
  induction rs generalizing acc with
  | nil => exact h
  | cons r rs ih => exact ih (hP.putPeers (hP.get acc.2.pools h) _)

theorem pools_retire (fast : Bool) (w : Swarm) : P (retire fast s w).pools :=
  hP.putPeers (pools_foldl_release hP fast _ h) _

theorem pools_loadEntry (acc : Nat × Nat) (r : Snapshot.SwarmRecord) :
    P (loadEntry rules.fast (acc, s) r).2.pools := by
  have hpeers : P (r.peers.foldl (loadPeer rules.fast) (∅, s)).2.pools :=
    pools_foldl_loadPeer hP rules.fast r.peers h
  have hassembled : P (assembled rules.fast s r).pools :=
    pools_foldl_loadProvider hP r.providers hpeers
  rw [loadEntry_snd]
  split
  · exact hpeers
  · unfold replace
    split
    · exact hassembled
    · exact pools_retire hP (s := State.setSwarm _ _ _) hassembled rules.fast _

end Store

theorem Action.pools_exec {P : Pools → Prop} (hP : Pools.PeerStable P) (rules : StoreRules)
    {s : State} (h : P s.pools) (a : Action) : P (a.exec rules s).pools := by
  cases a with
  | entry r => exact Store.pools_loadEntry hP rules h (0, 0) r
  | command c =>
      cases c with
      | save hash id u => exact Store.pools_save hP rules h hash id u
      | drop hash id provider => exact Store.pools_drop hP rules h hash id provider
      | trim now timeout => exact Store.pools_trim hP rules h now timeout

/-! ## Buffers -/

namespace Pools

/-- Idle buffers are empty, and those of replies have the capacity for as many peers as a
reply may list. -/
structure Restored (limit : Nat) (p : Pools) : Prop where
  listLimit : p.listLimit = limit
  lists4 : ∀ b ∈ p.lists4.idle, b = .withCapacity (6 * limit)
  lists6 : ∀ b ∈ p.lists6.idle, b = .withCapacity (18 * limit)
  hints : ∀ b ∈ p.hints.idle, b = .withCapacity hintCapacity
  encoders : ∀ b ∈ p.encoders.idle, b.bytes = []

variable {limit : Nat} {p : Pools}

theorem restored_fresh (limit : Nat) : Restored limit { listLimit := limit } where
  listLimit := rfl
  lists4 := fun _ h => absurd h List.not_mem_nil
  lists6 := fun _ h => absurd h List.not_mem_nil
  hints := fun _ h => absurd h List.not_mem_nil
  encoders := fun _ h => absurd h List.not_mem_nil

theorem peerStable_restored (limit : Nat) : PeerStable (Restored limit) where
  get := fun _ h => { h with }
  put := fun _ _ h => { h with }

namespace Restored

theorem getList4 (h : p.Restored limit) :
    p.getList4.1 = .withCapacity (6 * limit) ∧ p.getList4.2.Restored limit := by
  have hfresh : Buffer.withCapacity p.capacity4 = .withCapacity (6 * limit) := by
    rw [capacity4, h.listLimit]
  obtain ⟨hb, hrest⟩ := Pool.get_induction (P := (· = Buffer.withCapacity (6 * limit))) hfresh
    h.lists4
  exact ⟨hb, { h with lists4 := hrest }⟩

theorem getList6 (h : p.Restored limit) :
    p.getList6.1 = .withCapacity (18 * limit) ∧ p.getList6.2.Restored limit := by
  have hfresh : Buffer.withCapacity p.capacity6 = .withCapacity (18 * limit) := by
    rw [capacity6, h.listLimit]
  obtain ⟨hb, hrest⟩ := Pool.get_induction (P := (· = Buffer.withCapacity (18 * limit))) hfresh
    h.lists6
  exact ⟨hb, { h with lists6 := hrest }⟩

theorem getHint (h : p.Restored limit) :
    p.getHint.1 = .withCapacity hintCapacity ∧ p.getHint.2.Restored limit := by
  obtain ⟨hb, hrest⟩ := Pool.get_induction (P := (· = Buffer.withCapacity hintCapacity)) rfl h.hints
  exact ⟨hb, { h with hints := hrest }⟩

theorem getEncoder (h : p.Restored limit) :
    p.getEncoder.1.bytes = [] ∧ p.getEncoder.2.Restored limit := by
  have hfresh : (Buffer.withCapacity encoderCapacity).bytes = [] := rfl
  obtain ⟨hb, hrest⟩ := Pool.get_induction (P := (Buffer.bytes · = [])) hfresh h.encoders
  exact ⟨hb, { h with encoders := hrest }⟩

theorem putList4 (h : p.Restored limit) (b : Buffer) : (p.putList4 b).Restored limit := by
  have hreset : Buffer.reset p.capacity4 b = .withCapacity (6 * limit) := by
    rw [Buffer.reset_eq, capacity4, h.listLimit]
  exact { h with lists4 := Pool.put_induction hreset h.lists4 }

theorem putList6 (h : p.Restored limit) (b : Buffer) : (p.putList6 b).Restored limit := by
  have hreset : Buffer.reset p.capacity6 b = .withCapacity (18 * limit) := by
    rw [Buffer.reset_eq, capacity6, h.listLimit]
  exact { h with lists6 := Pool.put_induction hreset h.lists6 }

theorem putHint (h : p.Restored limit) (b : Buffer) : (p.putHint b).Restored limit :=
  { h with hints := Pool.put_induction (Buffer.reset_eq hintCapacity b) h.hints }

theorem putEncoder (h : p.Restored limit) (b : Buffer) : (p.putEncoder b).Restored limit :=
  { h with encoders := Pool.put_induction (P := (Buffer.bytes · = [])) rfl h.encoders }

end Restored

end Pools

/-! ## What leaves the store alone -/

/-- From `s` to `s'` only counters of other things than peers and buffers change, and the
source is asked for random numbers; idle buffers stay as good as they are. -/
structure State.Steady (s s' : State) : Prop where
  swarms : s'.swarms = s.swarms
  restored : ∀ limit, s.pools.Restored limit → s'.pools.Restored limit
  parked : s'.pools.peers = s.pools.peers
  totals : ∀ complete, s'.stats.read (Stats.kind complete) = s.stats.read (Stats.kind complete)
  addresses : s'.stats.addresses = s.stats.addresses
  source : s'.random.answer = s.random.answer

namespace State.Steady

variable {s t u : State}

theorem refl (s : State) : s.Steady s := ⟨rfl, fun _ h => h, rfl, fun _ => rfl, rfl, rfl⟩

theorem trans (h : s.Steady t) (h' : t.Steady u) : s.Steady u where
  swarms := h'.swarms.trans h.swarms
  restored limit hs := h'.restored limit (h.restored limit hs)
  parked := h'.parked.trans h.parked
  totals complete := (h'.totals complete).trans (h.totals complete)
  addresses := h'.addresses.trans h.addresses
  source := h'.source.trans h.source

/-- Anything but a peer is counted. -/
theorem count (s : State) {c : Counter} (hc : ∀ complete, c ≠ Stats.kind complete)
    (delta : Int64) : s.Steady (s.count c delta) where
  swarms := rfl
  restored _ h := h
  parked := rfl
  totals complete := by
    show (s.stats.add c delta).read _ = _
    rw [Stats.read_add, if_neg fun h => hc complete h.symm]
  addresses := by cases c <;> rfl
  source := rfl

theorem draw (s : State) (bound : UInt64) : s.Steady (s.draw bound).2 :=
  ⟨rfl, fun _ h => h, rfl, fun _ => rfl, rfl, rfl⟩

/-- Buffers are taken or parked. -/
theorem buffers (s : State) {pools : Pools} (hparked : pools.peers = s.pools.peers)
    (hrestored : ∀ limit, s.pools.Restored limit → pools.Restored limit) :
    s.Steady { s with pools := pools } :=
  ⟨rfl, hrestored, hparked, fun _ => rfl, rfl, rfl⟩

theorem swarm?_eq (h : s.Steady t) (hash : InfoHash) : t.swarm? hash = s.swarm? hash := by
  rw [State.swarm?, h.swarms, State.swarm?]

end State.Steady

namespace Store

theorem steady_pickProvider (s : State) (hash : InfoHash) :
    s.Steady (pickProvider s hash).2 := by
  unfold pickProvider
  split
  · exact .refl s
  · split
    · exact .refl s
    · exact .draw s _

theorem steady_baselineProvider (s : State) (hash : InfoHash) (compact withIds : Bool) :
    s.Steady (baselineProvider s hash compact withIds).2 := by
  have hpick := steady_pickProvider s hash
  unfold baselineProvider
  split
  · next heq =>
    rw [heq] at hpick
    exact hpick
  · next heq =>
    rw [heq] at hpick
    split
    · exact hpick.trans (.buffers _ rfl fun _ h => h.getHint.2)
    · exact hpick

end Store

end PeerTracker
