/-!
# Tables

A table holds at most one entry per key and lists its entries in the order in
which the keys came in; replacing a value keeps the place of its key. The view
is `get?`: each operation below says what it does to it.
-/

namespace PeerTracker

structure Table (K V : Type) where
  entries : List (K × V)
  nodup : (entries.map Prod.fst).Nodup

namespace Table

variable {K V : Type}

def empty : Table K V := ⟨[], List.nodup_nil⟩

instance : EmptyCollection (Table K V) := ⟨empty⟩
instance : Inhabited (Table K V) := ⟨empty⟩

instance [DecidableEq K] [DecidableEq V] : DecidableEq (Table K V) := fun a b =>
  if h : a.entries = b.entries then
    isTrue (by cases a; cases b; cases h; rfl)
  else isFalse fun e => h (e ▸ rfl)

def size (t : Table K V) : Nat := t.entries.length
def isEmpty (t : Table K V) : Bool := t.entries.isEmpty
def keys (t : Table K V) : List K := t.entries.map Prod.fst
def values (t : Table K V) : List V := t.entries.map Prod.snd

/-- The entries that satisfy `p`. -/
def filter (p : K → V → Bool) (t : Table K V) : Table K V where
  entries := t.entries.filter fun e => p e.1 e.2
  nodup := t.nodup.sublist (List.Sublist.map _ List.filter_sublist)

/-- New values under the same keys. -/
def mapValues {W : Type} (f : V → W) (t : Table K V) : Table K W where
  entries := t.entries.map fun e => (e.1, f e.2)
  nodup := by
    rw [List.map_map]
    exact t.nodup

section Keyed

variable [DecidableEq K]

def find (k : K) (es : List (K × V)) : Option V :=
  (es.find? fun e => e.1 = k).map Prod.snd

/-- Puts a value in the place of its key, at the end if the key is new. -/
def put (k : K) (v : V) : List (K × V) → List (K × V)
  | [] => [(k, v)]
  | e :: rest => if e.1 = k then (k, v) :: rest else e :: put k v rest

theorem keys_put (k : K) (v : V) (es : List (K × V)) :
    (put k v es).map Prod.fst =
      if k ∈ es.map Prod.fst then es.map Prod.fst else es.map Prod.fst ++ [k] := by
  induction es with
  | nil => simp [put]
  | cons e rest ih =>
    by_cases h : e.1 = k
    · simp [put, h]
    · have h' : ¬k = e.1 := fun x => h x.symm
      by_cases hk : k ∈ rest.map Prod.fst
      · have hm : k ∈ (e :: rest).map Prod.fst := List.mem_cons_of_mem _ hk
        rw [if_pos hm, put, if_neg h, List.map_cons, ih, if_pos hk, List.map_cons]
      · have hm : k ∉ (e :: rest).map Prod.fst := by
          rw [List.map_cons, List.mem_cons]
          exact fun x => x.elim h' hk
        rw [if_neg hm, put, if_neg h, List.map_cons, ih, if_neg hk, List.map_cons,
          List.cons_append]

theorem nodup_put (k : K) (v : V) {es : List (K × V)} (h : (es.map Prod.fst).Nodup) :
    ((put k v es).map Prod.fst).Nodup := by
  rw [keys_put]
  split
  · exact h
  next hk =>
    rw [List.nodup_append]
    exact ⟨h, by simp, fun a ha b hb => by
      rw [List.mem_singleton] at hb
      exact fun e => hk (hb ▸ e ▸ ha)⟩

def get? (t : Table K V) (k : K) : Option V := find k t.entries

def contains (t : Table K V) (k : K) : Bool := (t.get? k).isSome

def insert (t : Table K V) (k : K) (v : V) : Table K V :=
  ⟨put k v t.entries, nodup_put k v t.nodup⟩

def erase (t : Table K V) (k : K) : Table K V := t.filter fun k' _ => k' ≠ k

/-- Inserts pairs one after the other. -/
def ofList (es : List (K × V)) : Table K V :=
  es.foldl (fun t e => t.insert e.1 e.2) empty

@[simp] theorem get?_empty (k : K) : (empty : Table K V).get? k = none := rfl

theorem find_put (k j : K) (v : V) (es : List (K × V)) :
    find j (put k v es) = if j = k then some v else find j es := by
  induction es with
  | nil =>
    by_cases h : k = j
    · simp [put, find, h]
    · have h' : ¬j = k := fun x => h x.symm
      simp [put, find, h, h']
  | cons e rest ih =>
    by_cases he : e.1 = k
    · by_cases hj : j = k
      · simp [put, he, hj, find]
      · have h1 : ¬k = j := fun x => hj x.symm
        have h2 : ¬e.1 = j := fun x => hj (x.symm.trans he)
        simp [put, he, find, hj, h1]
    · by_cases hj : e.1 = j
      · have : ¬j = k := fun x => he (hj.trans x)
        simp [put, find, hj, this]
      · have ih' := ih
        simp only [find] at ih' ⊢
        rw [put, if_neg he, List.find?_cons_of_neg (by simpa using hj), ih',
          List.find?_cons_of_neg (by simpa using hj)]

theorem get?_insert (t : Table K V) (k j : K) (v : V) :
    (t.insert k v).get? j = if j = k then some v else t.get? j :=
  find_put k j v t.entries

@[simp] theorem get?_insert_self (t : Table K V) (k : K) (v : V) :
    (t.insert k v).get? k = some v := by
  rw [get?_insert, if_pos rfl]

theorem get?_insert_of_ne (t : Table K V) {k j : K} (v : V) (h : j ≠ k) :
    (t.insert k v).get? j = t.get? j := by
  rw [get?_insert, if_neg h]

theorem get?_erase (t : Table K V) (k j : K) :
    (t.erase k).get? j = if j = k then none else t.get? j := by
  obtain ⟨es, hes⟩ := t
  simp only [get?, erase, filter, find]
  clear hes
  induction es with
  | nil => simp
  | cons e rest ih =>
    by_cases he : e.1 = k
    · rw [List.filter_cons_of_neg (by simp [he]), ih]
      by_cases hj : j = k
      · simp [hj]
      · rw [if_neg hj, if_neg hj, List.find?_cons_of_neg]
        simpa using fun x => hj (x.symm.trans he)
    · rw [List.filter_cons_of_pos (by simp [he])]
      by_cases hj : e.1 = j
      · have : ¬j = k := fun x => he (hj.trans x)
        simp [hj, this]
      · rw [List.find?_cons_of_neg (by simpa using hj),
          List.find?_cons_of_neg (by simpa using hj), ih]

theorem get?_eq_some_iff (t : Table K V) (k : K) (v : V) :
    t.get? k = some v ↔ (k, v) ∈ t.entries := by
  obtain ⟨es, hes⟩ := t
  simp only [get?, find]
  induction es with
  | nil => simp
  | cons e rest ih =>
    rw [List.map_cons, List.nodup_cons] at hes
    by_cases he : e.1 = k
    · rw [List.find?_cons_of_pos (by simp [he]), List.mem_cons]
      constructor
      · intro h
        left
        rw [Option.map_some, Option.some.injEq] at h
        rw [← he, ← h]
      · rintro (h | h)
        · rw [← h]
          rfl
        · exact absurd (List.mem_map_of_mem (f := Prod.fst) h) (he ▸ hes.1)
    · rw [List.find?_cons_of_neg (by simpa using he), ih hes.2, List.mem_cons]
      constructor
      · exact Or.inr
      · rintro (h | h)
        · exact absurd (congrArg Prod.fst h).symm he
        · exact h

end Keyed

end Table

end PeerTracker
