import PeerTracker.Proofs.Queries

/-!
# A query string and its items

Reading a query string comes to collecting its items (`Query.parse_eq`), so that everything
about it is said of these. Two strings with an ampersand between them have the items of the
one and then those of the other (`itemsOf_append`), and under each key the values come one
after the other (`given_append`). An item spoils the string just if its segment begins with an
equals sign: no octets stand for an empty key but none at all.
-/

namespace PeerTracker

theorem splitAt_append (sep : UInt8) (a b : Bytes) :
    splitAt sep (a ++ sep :: b) = splitAt sep a ++ splitAt sep b := by
  induction a with
  | nil => exact if_pos rfl
  | cons x a ih =>
      rw [List.cons_append, splitAt, splitAt, ih]
      by_cases h : x = sep
      · rw [if_pos h, if_pos h, List.cons_append]
      · rw [if_neg h, if_neg h]
        have hparts : splitAt sep a ≠ [] := by
          rw [splitAt_eq_splitOn]
          exact List.splitOn_ne_nil sep a
        obtain ⟨part, parts, hsplit⟩ := List.exists_cons_of_ne_nil hparts
        rw [hsplit]
        rfl

theorem cutAt_fst_eq_nil_iff {sep : UInt8} {bs : Bytes} :
    (cutAt sep bs).1 = [] ↔ bs = [] ∨ bs.head? = some sep := by
  cases bs with
  | nil => simp [cutAt]
  | cons b rest =>
      rw [cutAt]
      by_cases h : b = sep <;> simp [h]

namespace Query

theorem percentDecode_eq_nil_iff {raw : Bytes} : percentDecode raw = [] ↔ raw = [] := by
  cases raw with
  | nil => simp [percentDecode]
  | cons b rest =>
      rw [percentDecode]
      split <;> simp

theorem itemsOf_append (a b : Bytes) :
    itemsOf (a ++ ampersand :: b) = itemsOf a ++ itemsOf b := by
  rw [itemsOf, splitAt_append, List.filter_append, List.map_append]
  rfl

/-! ## What a key gives -/

/-- What items give under a key: nothing if none has it, else the values of those that do. -/
def given (key : String) (items : List Item) : Option (List Bytes) :=
  if held key items = [] then none else some ((held key items).filterMap Item.value)

theorem given_append (key : String) (xs ys : List Item) :
    given key (xs ++ ys) = Option.merge (· ++ ·) (given key xs) (given key ys) := by
  have hheld : held key (xs ++ ys) = held key xs ++ held key ys := List.filter_append ..
  rw [given, given, given, hheld]
  by_cases hx : held key xs = []
  · by_cases hy : held key ys = [] <;> simp [hx, hy]
  · by_cases hy : held key ys = [] <;> simp [hx, hy, List.filterMap_append]

theorem get?_eq_given {raw : Bytes} {q : Query} (h : parse raw = .ok q) (key : String) :
    q.get? key = given key (itemsOf raw) := by
  rw [parse_eq] at h
  split at h
  · cases h
  · cases h
    have hvalues : ∀ items : List Item, (items.flatMap fun item => item.value.toList) =
        items.filterMap Item.value := fun items => (List.filterMap_eq_flatMap_toList ..).symm
    rw [get?_foldl_collect, given, ← hvalues]
    cases held key (itemsOf raw) with
    | nil => rfl
    | cons first rest => rfl

/-! ## When reading fails -/

theorem parse_eq_error_iff_items (raw : Bytes) :
    parse raw = .error .emptyKey ↔ ∃ item ∈ itemsOf raw, item.key = [] := by
  rw [parse_eq]
  split
  · next h => exact iff_of_true rfl h
  · next h => exact iff_of_false nofun h

theorem key_itemOf_eq_nil_iff {segment : Bytes} :
    segment ≠ [] ∧ (itemOf segment).key = [] ↔ segment.head? = some equalsSign := by
  have hkey : (itemOf segment).key = [] ↔ segment = [] ∨ segment.head? = some equalsSign :=
    percentDecode_eq_nil_iff.trans cutAt_fst_eq_nil_iff
  rw [hkey]
  constructor
  · rintro ⟨hne, h⟩
    exact h.resolve_left hne
  · intro h
    refine ⟨?_, .inr h⟩
    rintro rfl
    cases h

theorem parse_eq_error_iff (raw : Bytes) :
    parse raw = .error .emptyKey ↔
      ∃ segment ∈ raw.splitOn ampersand, segment.head? = some equalsSign := by
  rw [parse_eq_error_iff_items, itemsOf, ← splitAt_eq_splitOn]
  simp only [List.mem_map, List.mem_filter, decide_eq_true_eq, ← key_itemOf_eq_nil_iff]
  constructor
  · rintro ⟨_, ⟨segment, ⟨hmem, hne⟩, rfl⟩, hkey⟩
    exact ⟨segment, hmem, hne, hkey⟩
  · rintro ⟨segment, hmem, hne, hkey⟩
    exact ⟨_, ⟨segment, ⟨hmem, hne⟩, rfl⟩, hkey⟩

/-- **A query string is read as its items, and as nothing else.** Let it render items with
keys, however their octets are written and however many ampersands there are. Then a key of the
result is the text, in lower case, of some item's key, and under it stand the values of all such
items, raw and in their order; none if they have no value. Of strings whatever, just those
are refused of which a segment between ampersands begins with an equals sign. And reading one
string behind another gives under each key what the one gives and then what the other
does, and is refused just if reading one of them is. -/
theorem query_is_its_items :
    (∀ (raw : Bytes) (items : List Item), Renders raw items → (∀ item ∈ items, item.key ≠ []) →
      ∃ q, parse raw = .ok q ∧ ∀ key, q.get? key =
        if held key items = [] then none else some ((held key items).filterMap Item.value)) ∧
    (∀ raw, parse raw = .error .emptyKey ↔
      ∃ segment ∈ raw.splitOn ampersand, segment.head? = some equalsSign) ∧
    ∀ a b,
      (parse (a ++ ampersand :: b) = .error .emptyKey ↔
        parse a = .error .emptyKey ∨ parse b = .error .emptyKey) ∧
      ∀ qa qb, parse a = .ok qa → parse b = .ok qb →
        ∃ q, parse (a ++ ampersand :: b) = .ok q ∧
          ∀ key, q.get? key = Option.merge (· ++ ·) (qa.get? key) (qb.get? key) := by
  have hfails : ∀ a b, parse (a ++ ampersand :: b) = .error .emptyKey ↔
      parse a = .error .emptyKey ∨ parse b = .error .emptyKey := by
    intro a b
    simp only [parse_eq_error_iff_items, itemsOf_append, List.mem_append, or_and_right, exists_or]
  refine ⟨fun raw items hrenders hkeys => ?_, parse_eq_error_iff, fun a b => ⟨hfails a b, ?_⟩⟩
  · have hparse := parse_of_renders hrenders hkeys
    refine ⟨_, hparse, fun key => ?_⟩
    rw [get?_eq_given hparse, itemsOf_of_renders hrenders, given]
  · intro qa qb ha hb
    cases hboth : parse (a ++ ampersand :: b) with
    | error e =>
        rcases (hfails a b).mp hboth with h | h
        · rw [h] at ha
          cases ha
        · rw [h] at hb
          cases hb
    | ok q =>
        refine ⟨q, rfl, fun key => ?_⟩
        rw [get?_eq_given hboth, get?_eq_given ha, get?_eq_given hb, itemsOf_append, given_append]

/-- A key with escaped octets for its value, one of them that of an ampersand. -/
def sampleSegment : Bytes :=
  ascii "hash" ++ equalsSign :: [percent, 0x30, 0x30, percent, 0x66, 0x46, percent, 0x32, 0x36]

/-- Behind it the same key in capitals, an empty segment, and a key that has no value. -/
def sampleQuery : Bytes :=
  [ampersand].intercalate [sampleSegment, ascii "HASH" ++ equalsSign :: ascii "b=", [], ascii "flag"]

def sampleItems : List Item :=
  [⟨ascii "hash", some [0x00, 0xFF, 0x26]⟩, ⟨ascii "HASH", some (ascii "b=")⟩, ⟨ascii "flag", none⟩]

/-- The items of the sample are read, and a string behind it adds to them. -/
theorem query_is_its_items_sample :
    Renders sampleQuery sampleItems ∧ (∀ item ∈ sampleItems, item.key ≠ []) ∧
      ∃ q q', parse sampleQuery = .ok q ∧
        q.get? "hash" = some [[0x00, 0xFF, 0x26], ascii "b="] ∧ q.get? "flag" = some [] ∧
        parse (sampleQuery ++ ampersand :: ascii "flag=1") = .ok q' ∧
        q'.get? "flag" = some [ascii "1"] := by
  have hrenders : Renders sampleQuery sampleItems := by
    refine ⟨_, rfl, .cons (.valued (spells_self (by decide)) ?_) (.cons (.valued ?_ ?_)
      (.cons (.bare ?_) .nil))⟩
    · have hzero : Hex.digit? 0x30 = some 0 := rfl
      have hlower : Hex.digit? 0x66 = some 15 := rfl
      have hupper : Hex.digit? 0x46 = some 15 := rfl
      have htwo : Hex.digit? 0x32 = some 2 := rfl
      have hsix : Hex.digit? 0x36 = some 6 := rfl
      exact .escaped hzero hzero (.escaped hlower hupper (.escaped htwo hsix .nil))
    all_goals exact spells_self (by decide)
  have hkeys : ∀ item ∈ sampleItems, item.key ≠ [] := by decide
  obtain ⟨hrendered, -, happended⟩ := query_is_its_items
  obtain ⟨q, hq, hget⟩ := hrendered _ _ hrenders hkeys
  have hflag : q.get? "flag" = some [] := (hget _).trans (by decide +kernel)
  have hbehind : parse (ascii "flag=1") = .ok (.ofList [("flag", [ascii "1"])]) := by
    decide +kernel
  obtain ⟨q', hq', hget'⟩ := (happended _ _).2 q _ hq hbehind
  refine ⟨hrenders, hkeys, q, q', hq, (hget _).trans (by decide +kernel), hflag, hq', ?_⟩
  rw [hget', hflag]
  decide +kernel

end Query

end PeerTracker
