import Mathlib.Algebra.GroupWithZero.Nat
import PeerTracker.Proofs.Demands
import PeerTracker.Proofs.Totals

/-!
# Stores that come about

Actions make a store out of that of a fresh tracker. Between two of them its tables may be
found in another order, and the rest of the tracker does its own work, with buffers, random
numbers and counters of other things. `State.Arises` are the states that come about in this
way by actions that are allowed; what actions keep, and does not depend on order or on the
rest, holds of all of them.

The order of the tables is nothing to the totals either: which records there are
(`crowd`) does not depend on it.
-/

namespace PeerTracker

/-- The two states have the same swarms, in the same order, and the same totals of them. -/
structure State.SameStore (s t : State) : Prop where
  swarms : t.swarms = s.swarms
  totals : ∀ complete, t.stats.read (Stats.kind complete) = s.stats.read (Stats.kind complete)
  addresses : t.stats.addresses = s.stats.addresses

theorem State.Steady.sameStore {s t : State} (h : s.Steady t) : s.SameStore t :=
  ⟨h.swarms, h.totals, h.addresses⟩

/-- Actions have made this state of a fresh one, each of them allowed where it was taken. -/
inductive State.Arises (rules : StoreRules) (Allowed : State → Action → Prop) : State → Prop where
  | fresh (limit : Nat) (random : RandomSource) : Arises rules Allowed (.fresh limit random)
  | exec {s : State} (a : Action) :
      Arises rules Allowed s → Allowed s a → Arises rules Allowed (a.exec rules s)
  | reorder {s t : State} : Arises rules Allowed s → s.Reordered t → Arises rules Allowed t
  | elsewhere {s t : State} : Arises rules Allowed s → s.SameStore t → Arises rules Allowed t

/-- Every action is allowed. -/
def State.Any : State → Action → Prop := fun _ _ => True

/-- There are never `2 ^ 32` records, also while a snapshot is loaded. -/
def State.Narrow (s : State) (a : Action) : Prop := a.held s < 2 ^ 32

theorem crowd_of_reordered {s t : State} (h : s.Reordered t) : crowd t.swarms = crowd s.swarms := by
  -- swarms that are found alike have the same bags, under the same hashes
  have hbags : ∀ hash, (t.swarms.mapValues fun w => w.peers.bag).get? hash =
      (s.swarms.mapValues fun w => w.peers.bag).get? hash := by
    intro hash
    rw [Table.get?_mapValues, Table.get?_mapValues]
    have hrel := h.swarms hash
    rw [State.swarm?, State.swarm?] at hrel
    generalize s.swarms.get? hash = a, t.swarms.get? hash = b at hrel ⊢
    cases hrel with
    | none => rfl
    | some hreordered => exact congrArg some (Table.bag_of_perm hreordered.peers).symm
  have hbag := Table.bag_of_perm (Table.perm_of_get? hbags)
  rw [Table.bag_mapValues, Table.bag_mapValues] at hbag
  exact congrArg Multiset.join hbag

theorem State.Reordered.balanced {s t : State} (h : s.Reordered t) (hs : s.Balanced) :
    t.Balanced := by
  rw [State.Balanced, h.stats, crowd_of_reordered h]
  exact hs

theorem State.Reordered.countsOnlyRecords {s t : State} (h : s.Reordered t)
    (hs : s.CountsOnlyRecords) : t.CountsOnlyRecords := by
  rw [State.CountsOnlyRecords, h.stats, crowd_of_reordered h]
  exact hs

theorem State.SameStore.sound {s t : State} (h : s.SameStore t) (hs : s.Sound) : t.Sound := by
  intro hash w hw
  rw [swarm?, h.swarms] at hw
  exact hs hash w hw

theorem State.SameStore.balanced {s t : State} (h : s.SameStore t) (hs : s.Balanced) :
    t.Balanced where
  kinds := by
    intro c
    rw [h.totals, h.swarms]
    exact hs.kinds c
  addresses := by
    rw [h.addresses, h.swarms]
    exact hs.addresses

theorem State.SameStore.countsOnlyRecords {s t : State} (h : s.SameStore t)
    (hs : s.CountsOnlyRecords) : t.CountsOnlyRecords where
  kinds := by
    intro c
    rw [h.totals, h.swarms]
    exact hs.kinds c
  addresses := by
    rw [h.addresses, h.swarms]
    exact hs.addresses

namespace State.Arises

variable {rules : StoreRules} {Allowed : State → Action → Prop} {s : State}

theorem keeps {P : State → Prop} (hfresh : ∀ limit random, P (.fresh limit random))
    (hexec : ∀ s a, Allowed s a → P s → P (a.exec rules s))
    (hreorder : ∀ s t, s.Reordered t → P s → P t) (helsewhere : ∀ s t, s.SameStore t → P s → P t)
    (h : s.Arises rules Allowed) : P s := by
  induction h with
  | fresh limit random => exact hfresh limit random
  | exec a _ hallowed ih => exact hexec _ a hallowed ih
  | reorder _ hreordered ih => exact hreorder _ _ hreordered ih
  | elsewhere _ hsame ih => exact helsewhere _ _ hsame ih

theorem sound (h : s.Arises rules Allowed) : s.Sound :=
  h.keeps sound_fresh (fun s a _ hs => hs.exec s a) (fun _ _ hreordered => hreordered.sound)
    fun _ _ hsame => hsame.sound

theorem balanced (h : s.Arises rules Narrow) (hfast : rules.fast = false) :
    s.Sound ∧ s.Balanced := by
  refine h.keeps (P := fun s => s.Sound ∧ s.Balanced) ?_ ?_ ?_ ?_
  · exact fun limit random => ⟨sound_fresh limit random, balanced_fresh limit random⟩
  · exact fun s a hnarrow hs => Balanced.exec hfast s a hs hnarrow
  · exact fun s t hreordered hs => ⟨hreordered.sound hs.1, hreordered.balanced hs.2⟩
  · exact fun s t hsame hs => ⟨hsame.sound hs.1, hsame.balanced hs.2⟩

/-- However many records there are, what is gone from a store is gone from its totals. -/
theorem countsOnlyRecords (h : s.Arises rules Allowed) (hfast : rules.fast = false) :
    s.Sound ∧ s.CountsOnlyRecords := by
  refine h.keeps (P := fun s => s.Sound ∧ s.CountsOnlyRecords) ?_ ?_ ?_ ?_
  · exact fun limit random =>
      ⟨sound_fresh limit random, (balanced_fresh limit random).countsOnly⟩
  · exact fun s a _ hs => Stats.kept_countsOnly.exec hfast s a hs trivial
  · exact fun s t hreordered hs => ⟨hreordered.sound hs.1, hreordered.countsOnlyRecords hs.2⟩
  · exact fun s t hsame hs => ⟨hsame.sound hs.1, hsame.countsOnlyRecords hs.2⟩

/-- A run of allowed actions goes on from a store that comes about. -/
theorem run (as : List Action) (h : s.Arises rules Allowed)
    (hallowed : ∀ x ∈ trail rules s as, Allowed x.1 x.2) :
    (as.foldl (Action.exec rules) s).Arises rules Allowed := by
  induction as generalizing s with
  | nil => exact h
  | cons a as ih =>
      refine ih (h.exec a (hallowed (s, a) List.mem_cons_self)) ?_
      exact fun x hx => hallowed x (List.mem_cons_of_mem _ hx)

/-- So does a run of operations. -/
theorem operate (ops : List Operation) (h : s.Arises rules Any) :
    (ops.foldl (Operation.exec rules) s).Arises rules Any := by
  rw [Operation.foldl_exec_eq]
  exact h.run _ fun _ _ => trivial

end State.Arises

/-- The peers of a tracker are its records. -/
theorem State.peers_eq (s : State) : s.peers = s.records.length := by
  rw [peers, records, Table.values]
  induction s.swarms.entries with
  | nil => rfl
  | cons e rest ih =>
      rw [List.map_cons, List.foldr_cons, ih, List.flatMap_cons, List.length_append]
      simp [Table.size, Table.values]

end PeerTracker
