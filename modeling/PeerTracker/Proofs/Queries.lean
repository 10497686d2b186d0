import Mathlib.Data.List.Forall2
import PeerTracker.Proofs.Tables
import PeerTracker.Query

/-!
# What a query string stands for

A query string renders a list of items (`Query.Renders`): they stand in their order between
ampersands, of which there may be more than needed, and each octet of a key or a value is
written as itself or escaped. Reading it gives under each key the values of the items with
that key, in their order (`get?_foldl_collect`); items with other keys are not seen there.
-/

namespace PeerTracker

/-! ## Separators -/

theorem splitAt_eq_splitOn (sep : UInt8) (bs : Bytes) : splitAt sep bs = bs.splitOn sep := by
  induction bs with
  | nil => rfl
  | cons b rest ih =>
      rw [splitAt, List.splitOn_cons_eq_if_modifyHead, ih]
      by_cases h : b = sep
      · rw [if_pos h, if_pos (beq_iff_eq.mpr h)]
      · rw [if_neg h, if_neg (fun hbeq => h (beq_iff_eq.mp hbeq))]
        cases hsplit : rest.splitOn sep with
        | nil => exact absurd hsplit (List.splitOn_ne_nil sep rest)
        | cons part parts => rfl

theorem cutAt_of_notMem {sep : UInt8} {bs : Bytes} (h : sep ∉ bs) : cutAt sep bs = (bs, none) := by
  induction bs with
  | nil => rfl
  | cons b rest ih =>
      rw [List.mem_cons, not_or] at h
      rw [cutAt, if_neg (Ne.symm h.1), ih h.2]

theorem cutAt_append {sep : UInt8} {front : Bytes} (h : sep ∉ front) (back : Bytes) :
    cutAt sep (front ++ sep :: back) = (front, some back) := by
  induction front with
  | nil => exact if_pos rfl
  | cons b rest ih =>
      rw [List.mem_cons, not_or] at h
      rw [List.cons_append, cutAt, if_neg (Ne.symm h.1), ih h.2]

namespace Query

/-! ## Octets -/

/-- An octet that may stand for itself. -/
def isPlain (b : UInt8) : Bool := b < 128 && b ≠ percent && b ≠ ampersand

/-- In a key an equals sign may not. -/
def isPlainInKey (b : UInt8) : Bool := isPlain b && b ≠ equalsSign

/-- `raw` is a way to write `bs`: an octet stands for itself, if it may, or is escaped with
hexadecimal digits of either case. -/
inductive Spells (plain : UInt8 → Bool) : (raw bs : Bytes) → Prop
  | nil : Spells plain [] []
  | itself {b : UInt8} {raw bs : Bytes} (may : plain b = true) (rest : Spells plain raw bs) :
      Spells plain (b :: raw) (b :: bs)
  | escaped {h l : UInt8} {hi lo : Nat} {raw bs : Bytes} (high : Hex.digit? h = some hi)
      (low : Hex.digit? l = some lo) (rest : Spells plain raw bs) :
      Spells plain (percent :: h :: l :: raw) (UInt8.ofNat (16 * hi + lo) :: bs)

section Spells

variable {plain : UInt8 → Bool} {raw bs : Bytes}

theorem Spells.percentDecode_eq (h : Spells plain raw bs) (hpercent : plain percent = false) :
    percentDecode raw = bs := by
  induction h with
  | nil => rw [percentDecode]
  | @itself b raw bs may rest ih =>
      have hb : b ≠ percent := by
        rintro rfl
        rw [hpercent] at may
        cases may
      rw [percentDecode, if_neg hb]
      exact congrArg _ ih
  | @escaped h l hi lo raw bs high low rest ih =>
      have hescaped : escaped? (h :: l :: raw) = some (UInt8.ofNat (16 * hi + lo)) := by
        simp only [escaped?, high, low]
      rw [percentDecode, if_pos rfl, hescaped]
      exact congrArg _ ih

/-- What may not stand for itself, and makes no escape, does not occur. -/
theorem Spells.notMem {sep : UInt8} (h : Spells plain raw bs) (hplain : plain sep = false)
    (hpercent : sep ≠ percent) (hdigit : Hex.digit? sep = none) : sep ∉ raw := by
  induction h with
  | nil => exact List.not_mem_nil
  | @itself b raw bs may rest ih =>
      rintro (_ | ⟨_, hmem⟩)
      · rw [hplain] at may
        cases may
      · exact ih hmem
  | @escaped h l hi lo raw bs high low rest ih =>
      intro hmem
      rw [List.mem_cons, List.mem_cons, List.mem_cons] at hmem
      rcases hmem with rfl | rfl | rfl | hmem
      · exact hpercent rfl
      · rw [hdigit] at high
        cases high
      · rw [hdigit] at low
        cases low
      · exact ih hmem

end Spells

/-- What may stand for itself throughout. -/
theorem spells_self {plain : UInt8 → Bool} {bs : Bytes} (h : bs.all plain = true) :
    Spells plain bs bs := by
  induction bs with
  | nil => exact .nil
  | cons b bs ih =>
      rw [List.all_cons, Bool.and_eq_true] at h
      exact .itself h.1 (ih h.2)

/-! ## Items -/

/-- A key, with or without a value. -/
structure Item where
  key : Bytes
  value : Option Bytes

/-- `raw` is a way to write the item. -/
inductive Item.Renders : (raw : Bytes) → Item → Prop
  | bare {raw key : Bytes} (h : Spells isPlainInKey raw key) : Renders raw ⟨key, none⟩
  | valued {raw key raw' value : Bytes} (h : Spells isPlainInKey raw key)
      (h' : Spells isPlain raw' value) : Renders (raw ++ equalsSign :: raw') ⟨key, some value⟩

/-- `raw` is a way to write these items, between ampersands. -/
def Renders (raw : Bytes) (items : List Item) : Prop :=
  ∃ segments : List Bytes, raw = [ampersand].intercalate segments ∧
    List.Forall₂ Item.Renders (segments.filter (· ≠ [])) items

/-- The text of a key. -/
def textOf (key : Bytes) : String := String.ofList (LowerCase.lower (Utf8.lossy key))

theorem textOf_eq_empty_iff {key : Bytes} : textOf key = "" ↔ key = [] := by
  constructor
  · intro hempty
    by_contra h
    obtain ⟨b, rest, rfl⟩ := List.exists_cons_of_ne_nil h
    -- at least one character is read, and each has a lower-case form
    have hread : ∃ c cs, Utf8.lossy (b :: rest) = c :: cs := by
      rw [Utf8.lossy]
      split <;> exact ⟨_, _, rfl⟩
    obtain ⟨c, cs, hread⟩ := hread
    have hlower : LowerCase.lower (c :: cs) ≠ [] := by
      rw [LowerCase.lower, LowerCase.lowerFrom]
      split
      · exact List.cons_ne_nil _ _
      · split <;> exact List.cons_ne_nil _ _
    have htoList := congrArg String.toList hempty
    rw [textOf, hread, String.toList_ofList] at htoList
    exact hlower htoList
  · rintro rfl
    rw [textOf, Utf8.lossy]
    rfl

/-- One more item. -/
def collect (q : Query) (item : Item) : Query :=
  q.insert (textOf item.key) ((q.get? (textOf item.key)).getD [] ++ item.value.toList)

theorem Item.Renders.notMem {raw : Bytes} {item : Item} (h : Item.Renders raw item) :
    ampersand ∉ raw := by
  cases h with
  | bare h => exact h.notMem rfl (by decide) rfl
  | valued h h' =>
      rw [List.mem_append, List.mem_cons]
      rintro (hmem | heq | hmem)
      · exact h.notMem rfl (by decide) rfl hmem
      · exact absurd heq (by decide)
      · exact h'.notMem rfl (by decide) rfl hmem

/-- The item that a segment stands for; whatever is no escape stands for itself. -/
def itemOf (segment : Bytes) : Item :=
  ⟨percentDecode (cutAt equalsSign segment).1,
    (cutAt equalsSign segment).2.map percentDecode⟩

theorem Item.Renders.itemOf_eq {raw : Bytes} {item : Item} (h : Item.Renders raw item) :
    itemOf raw = item := by
  cases h with
  | bare h =>
      rw [itemOf, cutAt_of_notMem (h.notMem rfl (by decide) rfl), h.percentDecode_eq rfl]
      rfl
  | valued h h' =>
      rw [itemOf, cutAt_append (h.notMem rfl (by decide) rfl), h.percentDecode_eq rfl,
        Option.map_some, h'.percentDecode_eq rfl]

/-- An item counts as soon as it has a key. -/
theorem addItem_eq (q : Query) (segment : Bytes) :
    addItem q segment =
      if (itemOf segment).key = [] then .error .emptyKey else .ok (q.collect (itemOf segment)) := by
  have hkey : keyText (cutAt equalsSign segment).1 = textOf (itemOf segment).key := rfl
  rw [addItem]
  dsimp only
  rw [hkey]
  by_cases h : (itemOf segment).key = []
  · rw [if_pos h, if_pos (textOf_eq_empty_iff.mpr h)]
  · rw [if_neg h, if_neg (mt textOf_eq_empty_iff.mp h)]
    rfl

/-! ## Reading the whole string -/

/-- The items of a string, whatever it is. -/
def itemsOf (raw : Bytes) : List Item :=
  ((splitAt ampersand raw).filter (· ≠ [])).map itemOf

/-- Reading is collecting the items, unless one of them has no key. -/
theorem parse_eq (raw : Bytes) :
    parse raw =
      if ∃ item ∈ itemsOf raw, item.key = [] then .error .emptyKey
      else .ok ((itemsOf raw).foldl collect ∅) := by
  rw [parse, itemsOf]
  generalize (splitAt ampersand raw).filter (· ≠ []) = segments, (∅ : Query) = q
  induction segments generalizing q with
  | nil => exact (if_neg (by simp)).symm
  | cons segment segments ih =>
      rw [List.foldlM_cons, addItem_eq, List.map_cons, List.foldl_cons]
      by_cases h : (itemOf segment).key = []
      · rw [if_pos h, if_pos ⟨_, List.mem_cons_self, h⟩]
        rfl
      · rw [if_neg h]
        refine (ih _).trans (if_congr ?_ rfl rfl)
        simp [h]

/-- A string that renders items has just these. -/
theorem itemsOf_of_renders {raw : Bytes} {items : List Item} (h : Renders raw items) :
    itemsOf raw = items := by
  obtain ⟨segments, rfl, hrenders⟩ := h
  have hsegments : (splitAt ampersand ([ampersand].intercalate segments)).filter (· ≠ []) =
      segments.filter (· ≠ []) := by
    by_cases hnil : segments = []
    · rw [hnil]
      rfl
    · have hfull : ∀ segment ∈ segments.filter (· ≠ []), ampersand ∉ segment :=
        ((List.forall₂_and_left _ _).mp (hrenders.imp fun _ _ h => ⟨h.notMem, h⟩)).1
      rw [splitAt_eq_splitOn, List.splitOn_intercalate _ ?_ hnil]
      intro segment hsegment
      by_cases hempty : segment = []
      · rw [hempty]
        exact List.not_mem_nil
      · exact hfull segment (List.mem_filter.mpr ⟨hsegment, decide_eq_true hempty⟩)
  rw [itemsOf, hsegments]
  generalize segments.filter (· ≠ []) = found at hrenders
  induction hrenders with
  | nil => rfl
  | cons hitem _ ih => rw [List.map_cons, hitem.itemOf_eq, ih]

/-- A string that renders items is read as these. -/
theorem parse_of_renders {raw : Bytes} {items : List Item} (h : Renders raw items)
    (hkeys : ∀ item ∈ items, item.key ≠ []) : parse raw = .ok (items.foldl collect ∅) := by
  rw [parse_eq, itemsOf_of_renders h, if_neg]
  rintro ⟨item, hitem, hkey⟩
  exact hkeys item hitem hkey

/-- The items with a key. -/
def held (key : String) (items : List Item) : List Item :=
  items.filter fun item => textOf item.key = key

theorem get?_collect (q : Query) (item : Item) (key : String) :
    (q.collect item).get? key =
      if textOf item.key = key then some ((q.get? key).getD [] ++ item.value.toList)
      else q.get? key := by
  rw [collect, Table.get?_insert]
  by_cases h : textOf item.key = key
  · rw [if_pos h, if_pos h.symm, h]
  · rw [if_neg h, if_neg (Ne.symm h)]

/-- Under a key stand the values of the items with that key. -/
theorem get?_foldl_collect (key : String) (items : List Item) (q : Query) :
    (items.foldl collect q).get? key =
      match held key items with
      | [] => q.get? key
      | found => some ((q.get? key).getD [] ++ found.flatMap fun item => item.value.toList) := by
  induction items generalizing q with
  | nil => rfl
  | cons item items ih =>
      rw [List.foldl_cons, ih, get?_collect]
      by_cases h : textOf item.key = key
      · have hheld : held key (item :: items) = item :: held key items :=
          List.filter_cons_of_pos (decide_eq_true h)
        rw [if_pos h, hheld]
        cases held key items with
        | nil => simp
        | cons first rest => simp
      · have hheld : held key (item :: items) = held key items :=
          List.filter_cons_of_neg (by simpa using h)
        rw [if_neg h, hheld]

/-! ## Forms -/

/-- A name with its value. -/
def Item.field (f : String × Bytes) : Item := ⟨ascii f.1, some f.2⟩

/-- The items fill in the form, in whatever order. -/
def Fills (form : Table String Bytes) (items : List Item) : Prop :=
  items.Perm (form.entries.map Item.field)

/-- A name that is its own key: it has letters, but no capitals, and nothing that is not
ASCII. -/
def IsKey (name : String) : Prop := ascii name ≠ [] ∧ textOf (ascii name) = name

instance : DecidablePred IsKey := fun _ => inferInstanceAs (Decidable (_ ∧ _))

/-- The query holds what is in the form, and nothing else. -/
def Reads (q : Query) (form : Table String Bytes) : Prop :=
  ∀ name, q.get? name = (form.get? name).map fun value => [value]

section Fills

variable {form : Table String Bytes} {items : List Item} (h : Fills form items)
  (hkeys : ∀ name ∈ form.keys, IsKey name)
include h hkeys

theorem values_held_of_fills (name : String) :
    (held name items).map Item.value = (form.get? name).toList.map some := by
  have hfields : held name (form.entries.map Item.field) =
      (form.entries.filter fun e => e.1 = name).map Item.field := by
    rw [held, List.filter_map]
    congr 1
    refine List.filter_congr fun e he => ?_
    have hkey : textOf (ascii e.1) = e.1 := (hkeys e.1 (List.mem_map_of_mem he)).2
    show decide (textOf (ascii e.1) = name) = _
    rw [hkey]
  have hperm : ((held name items).map Item.value).Perm ((form.get? name).toList.map some) := by
    have hheld := (h.filter fun item => textOf item.key = name).map Item.value
    rw [← held, ← held, hfields, List.map_map] at hheld
    rw [← Table.filter_key, List.map_map]
    exact hheld
  cases hvalue : form.get? name with
  | none =>
      rw [hvalue] at hperm
      exact List.perm_nil.mp hperm
  | some value =>
      rw [hvalue] at hperm
      exact List.perm_singleton.mp hperm

/-- A filled form is read as it was filled in. -/
theorem reads_of_fills : (items.foldl collect ∅).Reads form := by
  intro name
  have hvalues := values_held_of_fills h hkeys name
  rw [get?_foldl_collect]
  cases hvalue : form.get? name with
  | none =>
      rw [hvalue, Option.toList_none, List.map_nil, List.map_eq_nil_iff] at hvalues
      rw [hvalues]
      rfl
  | some value =>
      rw [hvalue, Option.toList_some, List.map_singleton, List.map_eq_singleton_iff] at hvalues
      obtain ⟨item, hheld, hitem⟩ := hvalues
      rw [hheld]
      show some ([] ++ List.flatMap _ [item]) = _
      rw [List.flatMap_singleton, hitem]
      rfl

theorem parse_of_fills {raw : Bytes} (hrenders : Renders raw items) :
    parse raw = .ok (items.foldl collect ∅) := by
  apply parse_of_renders hrenders
  intro item hitem
  obtain ⟨f, hf, rfl⟩ := List.mem_map.mp (h.mem_iff.mp hitem)
  exact (hkeys f.1 (List.mem_map_of_mem hf)).1

end Fills

namespace Reads

variable {q : Query} {form : Table String Bytes} (h : q.Reads form) {name : String}
  {value : Bytes}
include h

theorem get?_eq (hmem : (name, value) ∈ form.entries) : q.get? name = some [value] := by
  rw [h name, (Table.get?_eq_some_iff _ _ _).mpr hmem]
  rfl

theorem value?_eq (hmem : (name, value) ∈ form.entries) : q.value? name = some value := by
  rw [Query.value?, h.get?_eq hmem]
  rfl

theorem value?_eq_none (hname : form.get? name = none) : q.value? name = none := by
  rw [Query.value?, h name, hname]
  rfl

theorem number?_eq {α : Type} {n : Nat} (hmem : (name, Decimal.write n) ∈ form.entries)
    (reader : Bytes → Option α) : q.number? name reader = some (reader (Decimal.write n)) := by
  have hvalue : Decimal.write n ≠ [] := Decimal.write_ne_nil n
  rw [Query.number?, h.value?_eq hmem, Option.filter_some, if_pos (decide_eq_true hvalue)]
  rfl

theorem flag_eq (hmem : (name, ascii "1") ∈ form.entries) : q.flag name = true := by
  rw [Query.flag, h.get?_eq hmem]
  exact beq_self_eq_true _

end Reads

/-! ## Writing -/

/-- A hexadecimal digit as an octet. -/
def digit (n : Nat) : UInt8 := UInt8.ofNat (Hex.digitChar n).toNat

theorem digit?_digit : ∀ n < 16, Hex.digit? (digit n) = some n := by
  decide

/-- Every octet escaped. -/
def escape (bs : Bytes) : Bytes :=
  bs.flatMap fun b => [percent, digit (b.toNat / 16), digit (b.toNat % 16)]

theorem spells_escape (plain : UInt8 → Bool) (bs : Bytes) : Spells plain (escape bs) bs := by
  induction bs with
  | nil => exact .nil
  | cons b bs ih =>
      have hhigh : b.toNat / 16 < 16 := by
        have := b.toNat_lt
        omega
      have hlow : b.toNat % 16 < 16 := Nat.mod_lt _ (by decide)
      have hb : UInt8.ofNat (16 * (b.toNat / 16) + b.toNat % 16) = b := by
        rw [Nat.div_add_mod, UInt8.ofNat_toNat]
      have hescaped := Spells.escaped (digit?_digit _ hhigh) (digit?_digit _ hlow) ih
      rw [hb] at hescaped
      exact hescaped

/-- A form, written with every octet escaped. -/
def write (form : Table String Bytes) : Bytes :=
  [ampersand].intercalate
    (form.entries.map fun f => escape (ascii f.1) ++ equalsSign :: escape f.2)

/-- Every form can be written. -/
theorem renders_write (form : Table String Bytes) :
    Renders (write form) (form.entries.map Item.field) := by
  refine ⟨_, rfl, ?_⟩
  have hfull : (form.entries.map fun f =>
      escape (ascii f.1) ++ equalsSign :: escape f.2).filter (· ≠ []) =
        form.entries.map fun f => escape (ascii f.1) ++ equalsSign :: escape f.2 := by
    rw [List.filter_eq_self]
    intro segment hsegment
    obtain ⟨f, -, rfl⟩ := List.mem_map.mp hsegment
    simp
  rw [hfull, List.forall₂_map_left_iff, List.forall₂_map_right_iff, List.forall₂_same]
  exact fun f _ => .valued (spells_escape _ _) (spells_escape _ _)

end Query

/-! ## Numbers -/

namespace Decimal

/-- A number that fits is read without a sign. -/
theorem readInt64?_write {n : Nat} (h : n < negativeLimit) :
    readInt64? (write n) = some (Int64.ofNat n) := by
  have hread := read?_write n
  obtain ⟨b, rest, hwrite, hdigit⟩ := write_eq_cons n
  rw [hwrite] at hread ⊢
  unfold readInt64?
  split
  · next heq =>
    cases heq
    cases hdigit
  · next heq =>
    cases heq
    cases hdigit
  · rw [hread, Option.bind_some, if_pos h]

theorem readUInt64?_write {n : Nat} (h : n < UInt64.size) :
    readUInt64? (write n) = some (UInt64.ofNat n) := by
  have hread := read?_write n
  obtain ⟨b, rest, hwrite, hdigit⟩ := write_eq_cons n
  rw [hwrite] at hread ⊢
  unfold readUInt64?
  split
  · next heq =>
    cases heq
    cases hdigit
  · dsimp only
    rw [hread, Option.bind_some, if_pos h]

end Decimal

end PeerTracker
