import Mathlib.Data.Multiset.Bind
import PeerTracker.Table

/-!
# Tables as collections

What a table holds does not depend on the order of its entries. `bag` forgets
that order: it is the multiset of the values. An operation on one key takes one
value out of the bag and puts another one in, whatever else the table holds, so
a count over a bag changes by what happens to that one value.
-/

namespace PeerTracker.Table

variable {K V : Type}

/-- The values, in no order. -/
def bag (t : Table K V) : Multiset V := ↑t.values

theorem card_bag (t : Table K V) : t.bag.card = t.size := by
  simp [bag, values, size]

theorem length_values (t : Table K V) : t.values.length = t.size := List.length_map _

theorem eq_of_entries {t u : Table K V} (h : t.entries = u.entries) : t = u := by
  cases t
  cases u
  cases h
  rfl

theorem values_mapValues {W : Type} (f : V → W) (t : Table K V) :
    (t.mapValues f).values = t.values.map f := by
  simp only [values, mapValues, List.map_map]
  rfl

theorem bag_mapValues {W : Type} (f : V → W) (t : Table K V) :
    (t.mapValues f).bag = t.bag.map f := by
  rw [bag, values_mapValues, bag, Multiset.map_coe]

theorem bag_of_perm {t u : Table K V} (h : t.entries.Perm u.entries) : t.bag = u.bag :=
  Multiset.coe_eq_coe.mpr (h.map Prod.snd)

theorem filter_filter (t : Table K V) (p q : K → V → Bool) :
    (t.filter p).filter q = t.filter fun k v => p k v && q k v := by
  apply eq_of_entries
  simp [filter, List.filter_filter, Bool.and_comm]

theorem filter_congr {t : Table K V} {p q : K → V → Bool}
    (h : ∀ e ∈ t.entries, p e.1 e.2 = q e.1 e.2) : t.filter p = t.filter q :=
  eq_of_entries (List.filter_congr h)

theorem filter_eq_self {t : Table K V} {p : K → V → Bool}
    (h : ∀ e ∈ t.entries, p e.1 e.2 = true) : t.filter p = t :=
  eq_of_entries (List.filter_eq_self.mpr h)

theorem values_filter (t : Table K V) (p : V → Bool) :
    (t.filter fun _ v => p v).values = t.values.filter p := by
  simp only [values, filter, List.filter_map]
  rfl

theorem mem_values_of_mem {t : Table K V} {e : K × V} (h : e ∈ t.entries) : e.2 ∈ t.values :=
  List.mem_map_of_mem h

theorem nodup_entries (t : Table K V) : t.entries.Nodup := t.nodup.of_map

theorem bag_eq_zero_of_isEmpty {t : Table K V} (h : t.isEmpty = true) : t.bag = 0 := by
  have hnil : t.entries = [] := List.isEmpty_iff.mp h
  simp [bag, values, hnil]

/-- Leaving out what has nothing to give changes nothing. -/
theorem flatMap_values_filter {W : Type} {p : V → Bool} {f : V → List W} (t : Table K V)
    (h : ∀ v, p v = false → f v = []) :
    (t.filter fun _ v => p v).values.flatMap f = t.values.flatMap f := by
  rw [values_filter]
  induction t.values with
  | nil => rfl
  | cons v vs ih =>
      rw [List.flatMap_cons, ← ih]
      by_cases hv : p v = true
      · rw [List.filter_cons_of_pos hv, List.flatMap_cons]
      · rw [List.filter_cons_of_neg hv, h v (Bool.eq_false_of_not_eq_true hv), List.nil_append]

variable [DecidableEq K]

theorem get?_filter (t : Table K V) (p : K → V → Bool) (k : K) :
    (t.filter p).get? k = (t.get? k).filter (p k) := by
  apply Option.ext
  intro v
  rw [get?_eq_some_iff, Option.filter_eq_some_iff, get?_eq_some_iff]
  simp [filter]

theorem get?_mapValues {W : Type} (f : V → W) (t : Table K V) (k : K) :
    (t.mapValues f).get? k = (t.get? k).map f := by
  apply Option.ext
  intro w
  rw [get?_eq_some_iff, Option.map_eq_some_iff]
  simp only [get?_eq_some_iff, mapValues, List.mem_map, Prod.mk.injEq]
  constructor
  · rintro ⟨⟨_, v⟩, hv, rfl, rfl⟩
    exact ⟨v, hv, rfl⟩
  · rintro ⟨v, hv, rfl⟩
    exact ⟨(k, v), hv, rfl, rfl⟩

theorem mem_keys (t : Table K V) (k : K) : k ∈ t.keys ↔ ∃ v, t.get? k = some v := by
  simp only [get?_eq_some_iff, keys, List.mem_map]
  constructor
  · rintro ⟨⟨_, v⟩, h, rfl⟩
    exact ⟨v, h⟩
  · rintro ⟨v, h⟩
    exact ⟨(k, v), h, rfl⟩

theorem mem_values_of_get? {t : Table K V} {k : K} {v : V} (h : t.get? k = some v) :
    v ∈ t.values :=
  mem_values_of_mem ((get?_eq_some_iff t k v).mp h)

theorem mem_bag (t : Table K V) (v : V) : v ∈ t.bag ↔ ∃ k, t.get? k = some v := by
  simp only [get?_eq_some_iff, bag, values, Multiset.mem_coe, List.mem_map]
  constructor
  · rintro ⟨⟨k, _⟩, h, rfl⟩
    exact ⟨k, h⟩
  · rintro ⟨k, h⟩
    exact ⟨(k, v), h, rfl⟩

theorem bag_eq_zero {t : Table K V} (h : ∀ k, t.get? k = none) : t.bag = 0 := by
  apply Multiset.eq_zero_of_forall_notMem
  intro v hv
  obtain ⟨k, hk⟩ := (mem_bag t v).mp hv
  rw [h k] at hk
  cases hk

theorem get?_eq_none_of_isEmpty {t : Table K V} (h : t.isEmpty = true) (k : K) :
    t.get? k = none := by
  have hnil : t.entries = [] := List.isEmpty_iff.mp h
  simp [get?, find, hnil]

theorem exists_get?_of_isEmpty {t : Table K V} (h : ¬t.isEmpty = true) :
    ∃ k v, t.get? k = some v := by
  have hne : t.entries ≠ [] := fun e => h (List.isEmpty_iff.mpr e)
  obtain ⟨e, he⟩ := List.exists_mem_of_ne_nil _ hne
  exact ⟨e.1, e.2, (get?_eq_some_iff t e.1 e.2).mpr he⟩

/-- Two tables that are looked up alike hold the same entries. -/
theorem perm_of_get? {t u : Table K V} (h : ∀ k, t.get? k = u.get? k) :
    t.entries.Perm u.entries := by
  rw [List.perm_ext_iff_of_nodup t.nodup_entries u.nodup_entries]
  rintro ⟨k, v⟩
  rw [← get?_eq_some_iff, ← get?_eq_some_iff, h k]

/-- At most one entry has a given key. -/
theorem filter_key (t : Table K V) (k : K) :
    (t.entries.filter fun e => e.1 = k).map Prod.snd = (t.get? k).toList := by
  obtain ⟨es, hes⟩ := t
  show (es.filter fun e => e.1 = k).map Prod.snd = (find k es).toList
  induction es with
  | nil => rfl
  | cons e rest ih =>
      rw [List.map_cons, List.nodup_cons] at hes
      by_cases he : e.1 = k
      · have hrest : rest.filter (fun x => x.1 = k) = [] := by
          apply List.filter_eq_nil_iff.mpr
          intro x hx
          rw [decide_eq_true_eq]
          intro hxk
          exact hes.1 (he.trans hxk.symm ▸ List.mem_map_of_mem hx)
        rw [List.filter_cons_of_pos (by simpa using he), hrest]
        simp [find, he]
      · rw [List.filter_cons_of_neg (by simpa using he), ih hes.2]
        simp [find, he]

/-! ## One key at a time -/

theorem put_perm (k : K) (v : V) {es : List (K × V)} (h : (es.map Prod.fst).Nodup) :
    (put k v es).Perm ((k, v) :: es.filter fun e => e.1 ≠ k) := by
  induction es with
  | nil => exact List.Perm.refl _
  | cons e rest ih =>
    rw [List.map_cons, List.nodup_cons] at h
    by_cases he : e.1 = k
    · -- the key stands here, so the rest has no entry to filter out
      have hrest : rest.filter (fun e => e.1 ≠ k) = rest := by
        apply List.filter_eq_self.mpr
        intro x hx
        rw [decide_eq_true_eq]
        intro hxk
        exact h.1 (he.trans hxk.symm ▸ List.mem_map_of_mem hx)
      rw [put, if_pos he, List.filter_cons_of_neg (by simpa using he), hrest]
    · rw [put, if_neg he, List.filter_cons_of_pos (by simpa using he)]
      exact ((ih h.2).cons e).trans (List.Perm.swap _ _ _)

theorem bag_insert (t : Table K V) (k : K) (v : V) :
    (t.insert k v).bag = v ::ₘ (t.erase k).bag := by
  have h := (put_perm k v t.nodup).map Prod.snd
  exact Multiset.coe_eq_coe.mpr h

/-- A new key goes to the end. -/
theorem put_of_notMem {k : K} {es : List (K × V)} (h : k ∉ es.map Prod.fst) (v : V) :
    put k v es = es ++ [(k, v)] := by
  induction es with
  | nil => rfl
  | cons e rest ih =>
    rw [List.map_cons, List.mem_cons, not_or] at h
    rw [put, if_neg (fun he => h.1 he.symm), ih h.2, List.cons_append]

theorem notMem_keys {t : Table K V} {k : K} (h : k ∉ t.entries.map Prod.fst) :
    t.get? k = none := by
  cases hget : t.get? k with
  | none => rfl
  | some v => exact absurd ((mem_keys t k).mpr ⟨v, hget⟩) h

/-- Where a table is filled with new keys one by one, its entries are those that went in. -/
theorem entries_foldl {α β : Type} (view : β → Table K V) (step : β → α → β) (key : α → K)
    (value : α → V)
    (hstep : ∀ b a, (view b).get? (key a) = none →
      view (step b a) = (view b).insert (key a) (value a))
    (as : List α) (b : β) (hnodup : ((view b).entries.map Prod.fst ++ as.map key).Nodup) :
    (view (as.foldl step b)).entries = (view b).entries ++ as.map fun a => (key a, value a) := by
  induction as generalizing b with
  | nil => exact (List.append_nil _).symm
  | cons a as ih =>
      have hnew : key a ∉ (view b).entries.map Prod.fst := by
        intro hmem
        exact (List.nodup_append.mp hnodup).2.2 _ hmem _ (by simp) rfl
      have hentries : (view (step b a)).entries = (view b).entries ++ [(key a, value a)] := by
        rw [hstep b a (notMem_keys hnew)]
        exact put_of_notMem hnew (value a)
      rw [List.foldl_cons, ih (step b a), hentries, List.append_assoc]
      · rfl
      · rw [hentries, List.map_append, List.append_assoc]
        exact hnodup

theorem put_eq_self {k : K} {v : V} {es : List (K × V)} (h : find k es = some v) :
    put k v es = es := by
  induction es with
  | nil => cases h
  | cons e rest ih =>
    by_cases he : e.1 = k
    · rw [find, List.find?_cons_of_pos (by simpa using he), Option.map_some,
        Option.some.injEq] at h
      rw [put, if_pos he, ← he, ← h]
    · rw [find, List.find?_cons_of_neg (by simpa using he)] at h
      rw [put, if_neg he, ih h]

/-- Writing what is there already changes nothing, the order included. -/
theorem insert_eq_self {t : Table K V} {k : K} {v : V} (h : t.get? k = some v) :
    t.insert k v = t :=
  eq_of_entries (put_eq_self h)

theorem bag_eq_cons {t : Table K V} {k : K} {v : V} (h : t.get? k = some v) :
    t.bag = v ::ₘ (t.erase k).bag := by
  rw [← bag_insert, insert_eq_self h]

theorem erase_eq_self {t : Table K V} {k : K} (h : t.get? k = none) : t.erase k = t := by
  apply eq_of_entries
  apply List.filter_eq_self.mpr
  intro e he
  rw [decide_eq_true_eq]
  rintro rfl
  rw [(get?_eq_some_iff t e.1 e.2).mpr he] at h
  cases h

theorem bag_erase_le (t : Table K V) (k : K) : (t.erase k).bag ≤ t.bag := by
  cases h : t.get? k with
  | none => rw [erase_eq_self h]
  | some v =>
      rw [bag_eq_cons h]
      exact Multiset.le_cons_self _ _

/-- What an erasure takes out. -/
theorem size_erase_add (t : Table K V) (k : K) :
    (t.erase k).size + (t.get? k).toList.length = t.size := by
  cases h : t.get? k with
  | none => rw [erase_eq_self h]; rfl
  | some v => rw [← card_bag t, bag_eq_cons h, Multiset.card_cons, card_bag]; rfl

/-- An insertion adds an entry unless there is one to replace. -/
theorem size_insert (t : Table K V) (k : K) (v : V) :
    (t.insert k v).size = t.size + (1 - (t.get? k).toList.length) := by
  have herase := t.size_erase_add k
  have hinsert : (t.insert k v).size = (t.erase k).size + 1 := by
    rw [← card_bag, bag_insert, Multiset.card_cons, card_bag]
  cases h : t.get? k with
  | none =>
      rw [h] at herase
      rw [hinsert]
      exact congrArg (· + 1) herase
  | some w =>
      rw [h] at herase
      exact hinsert.trans herase

theorem erase_insert (t : Table K V) (k : K) (v : V) : (t.insert k v).erase k = t.erase k := by
  apply eq_of_entries
  obtain ⟨es, hes⟩ := t
  show (put k v es).filter (fun e => e.1 ≠ k) = es.filter (fun e => e.1 ≠ k)
  -- it holds of any list of entries, and the induction needs it of the rest
  clear hes
  induction es with
  | nil => simp [put]
  | cons e rest ih =>
    by_cases he : e.1 = k
    · simp [put, he]
    · rw [put, if_neg he, List.filter_cons_of_pos (by simpa using he),
        List.filter_cons_of_pos (by simpa using he), ih]

theorem insert_insert (t : Table K V) (k : K) (v v' : V) :
    (t.insert k v).insert k v' = t.insert k v' := by
  apply eq_of_entries
  obtain ⟨es, hes⟩ := t
  show put k v' (put k v es) = put k v' es
  clear hes
  induction es with
  | nil => simp [put]
  | cons e rest ih =>
    by_cases he : e.1 = k
    · simp [put, he]
    · rw [put, if_neg he, put, if_neg he, put, if_neg he, ih]

end PeerTracker.Table
