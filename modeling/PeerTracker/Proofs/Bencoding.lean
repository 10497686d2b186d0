import Mathlib.Data.List.Nodup
import Mathlib.Data.List.TakeWhile
import PeerTracker.Bencode

/-!
# Canonical bencoding

A value is canonical when the keys of each dictionary in it strictly increase. The strict
reader gives back every canonical value that is written (`Canonical.readsBack`), and takes
nothing that is not written for one (`read_sound`). Hence what it reads as a whole is in canonical
form, neither more nor less (`decode_eq_some_iff`).

A number and a byte string begin with a digit, everything else with a letter of its own, so
that each value and the end of a list are told by one octet.
-/

namespace PeerTracker

namespace Bencode

/-! ## Numbers and byte strings -/

/-- The digits of a number end where no digit follows. -/
theorem readNat_write (n : Nat) {rest : Bytes} (h : rest.takeWhile Decimal.isDigit = []) :
    readNat (Decimal.write n ++ rest) = some (n, rest) := by
  have hdigits : (Decimal.write n ++ rest).takeWhile Decimal.isDigit = Decimal.write n := by
    rw [List.takeWhile_append_of_pos (List.all_eq_true.mp (Decimal.all_isDigit_write n)), h,
      List.append_nil]
  rw [readNat, hdigits, Decimal.read?_write, Option.bind_some, if_pos rfl, List.drop_left]

theorem readNat_sound {bs rest : Bytes} {n : Nat} (h : readNat bs = some (n, rest)) :
    bs = Decimal.write n ++ rest := by
  obtain ⟨m, -, h⟩ := Option.bind_eq_some_iff.mp h
  split at h
  · next hwrite =>
    obtain ⟨rfl, rfl⟩ : m = n ∧ bs.drop (bs.takeWhile Decimal.isDigit).length = rest := by
      simpa using h
    rw [hwrite]
    exact (List.prefix_iff_eq_append.mp (List.takeWhile_prefix _)).symm
  · cases h

theorem readSigned_writeInt (i : Int) {rest : Bytes}
    (h : rest.takeWhile Decimal.isDigit = []) :
    readSigned (Decimal.writeInt i ++ rest) = some (i, rest) := by
  cases i with
  | ofNat n =>
      obtain ⟨b, tail, hcons, hdigit⟩ := Decimal.write_eq_cons n
      have hsign : ∀ tail', Decimal.write n ++ rest ≠ 45 :: tail' := by
        rintro tail' heq
        rw [hcons] at heq
        obtain rfl : b = 45 := (List.cons.inj heq).1
        cases hdigit
      show readSigned (Decimal.write n ++ rest) = _
      rw [readSigned, readNat_write n h]
      · rfl
      · exact hsign
  | negSucc n =>
      rw [Decimal.writeInt_negSucc, List.cons_append, readSigned, readNat_write (n + 1) h]
      rfl

theorem readSigned_sound {bs rest : Bytes} {i : Int} (h : readSigned bs = some (i, rest)) :
    bs = Decimal.writeInt i ++ rest := by
  unfold readSigned at h
  split at h
  · next tail =>
    split at h
    · next n rest' hread =>
      obtain ⟨rfl, rfl⟩ : Int.negSucc n = i ∧ rest' = rest := by
        simpa [Int.negSucc_eq] using h
      rw [readNat_sound hread, Decimal.writeInt_negSucc, List.cons_append]
    · cases h
  · next bs =>
    obtain ⟨⟨n, rest'⟩, hread, hpair⟩ := Option.map_eq_some_iff.mp h
    obtain ⟨rfl, rfl⟩ : (n : Int) = i ∧ rest' = rest := by simpa using hpair
    exact readNat_sound hread

theorem readOctet_eq_some_iff {b : UInt8} {bs rest : Bytes} :
    readOctet b bs = some rest ↔ bs = b :: rest := by
  cases bs with
  | nil => simp [readOctet]
  | cons x xs =>
      rw [readOctet, List.cons.injEq]
      split <;> simp_all

/-- A byte string is read back, and what follows it is left. -/
theorem readString_encodeBytes (bs rest : Bytes) :
    readString (encodeBytes bs ++ rest) = some (bs, rest) := by
  have hlength : readNat (encodeBytes bs ++ rest) = some (bs.length, ascii ":" ++ bs ++ rest) := by
    rw [encodeBytes, List.append_assoc, List.append_assoc]
    exact readNat_write bs.length rfl
  simp only [readString, hlength, Option.bind_eq_bind, Option.bind_some]
  show (if bs.length ≤ (bs ++ rest).length then _ else _) = _
  rw [if_pos (by simp)]
  simp

theorem readString_sound {bs s rest : Bytes} (h : readString bs = some (s, rest)) :
    bs = encodeBytes s ++ rest := by
  obtain ⟨⟨n, _⟩, hnat, hbehind⟩ := Option.bind_eq_some_iff.mp h
  obtain ⟨behind, hcolon, hsplit⟩ := Option.bind_eq_some_iff.mp hbehind
  obtain rfl := readOctet_eq_some_iff.mp hcolon
  split at hsplit
  · next hfits =>
    obtain ⟨rfl, rfl⟩ : behind.take n = s ∧ behind.drop n = rest := by simpa using hsplit
    rw [readNat_sound hnat, encodeBytes, List.length_take_of_le hfits, List.append_assoc,
      List.append_assoc, List.take_append_drop]
    rfl
  · cases hsplit

theorem encodeBytes_append_inj {a b rest rest' : Bytes}
    (h : encodeBytes a ++ rest = encodeBytes b ++ rest') : a = b ∧ rest = rest' := by
  have hread := congrArg readString h
  rw [readString_encodeBytes, readString_encodeBytes, Option.some.injEq] at hread
  exact Prod.mk.inj hread

theorem encodeBytes_eq_cons (bs : Bytes) :
    ∃ b tail, encodeBytes bs = b :: tail ∧ Decimal.isDigit b = true := by
  obtain ⟨b, tail, hcons, hdigit⟩ := Decimal.write_eq_cons bs.length
  refine ⟨b, tail ++ ascii ":" ++ bs, ?_, hdigit⟩
  rw [encodeBytes, hcons]
  rfl

/-! ## Canonical values -/

/-- The keys strictly increase. -/
def Increasing (entries : List (Bytes × Bencode)) : Prop :=
  entries.Pairwise fun a b => Bytes.before a.1 b.1 = true

/-- The keys of every dictionary in a value strictly increase. -/
inductive Canonical : Bencode → Prop where
  | int (i : Int) : Canonical (.int i)
  | bytes (bs : Bytes) : Canonical (.bytes bs)
  | list {items : List Bencode} (h : ∀ v ∈ items, Canonical v) : Canonical (.list items)
  | dict {entries : List (Bytes × Bencode)} (hkeys : Increasing entries)
      (h : ∀ e ∈ entries, Canonical e.2) : Canonical (.dict entries)

/-- The first key decides, the others being in order. -/
theorem increasing_cons {k : Bytes} {v : Bencode} {es : List (Bytes × Bencode)} :
    Increasing ((k, v) :: es) ↔ precedes k es = true ∧ Increasing es := by
  refine List.pairwise_cons.trans (and_congr_left fun hes => ?_)
  cases es with
  | nil => simp [precedes]
  | cons e es =>
      refine ⟨fun h => h e List.mem_cons_self, fun hfirst x hx => ?_⟩
      rcases List.mem_cons.mp hx with rfl | hx
      · exact hfirst
      · exact Bytes.before_trans hfirst ((List.pairwise_cons.mp hes).1 x hx)

/-! ## One step of the reader

What a value begins with tells how it is read. The end of a list begins no value, since it
is neither a digit nor one of the three letters. -/

theorem readString_of_not_digit {b : UInt8} (h : Decimal.isDigit b = false) (tail : Bytes) :
    readString (b :: tail) = none := by
  have hnat : readNat (b :: tail) = none := by simp [readNat, h, Decimal.read?]
  simp [readString, hnat]

section Step

variable {fuel : Nat} {bs rest : Bytes}

theorem read_eq_some_iff {v : Bencode} :
    read (fuel + 1) bs = some (v, rest) ↔
      (∃ i tail, v = .int i ∧ bs = 105 :: tail ∧ readSigned tail = some (i, 101 :: rest)) ∨
      (∃ items tail, v = .list items ∧ bs = 108 :: tail ∧
        readItems fuel tail = some (items, rest)) ∨
      (∃ entries tail, v = .dict entries ∧ bs = 100 :: tail ∧
        readEntries fuel tail = some (entries, rest)) ∨
      (∃ s, v = .bytes s ∧ readString bs = some (s, rest)) := by
  rw [read.eq_def]
  split
  · contradiction
  · simp [Option.bind_eq_some_iff, readOctet_eq_some_iff,
      readString_of_not_digit (b := 105) rfl]
    grind
  · next heq =>
    obtain rfl := Nat.succ.inj heq
    simp [Option.bind_eq_some_iff, readString_of_not_digit (b := 108) rfl]
    grind
  · next heq =>
    obtain rfl := Nat.succ.inj heq
    simp [Option.bind_eq_some_iff, readString_of_not_digit (b := 100) rfl]
    grind
  · simp [Option.bind_eq_some_iff]
    grind

theorem read_end (tail : Bytes) : read fuel (101 :: tail) = none := by
  cases fuel with
  | zero => rfl
  | succ fuel =>
      refine Option.eq_none_iff_forall_ne_some.mpr fun ⟨v, mid⟩ h => ?_
      simp [read_eq_some_iff, readString_of_not_digit (b := 101) rfl] at h

theorem readItems_eq_some_iff {items : List Bencode} :
    readItems (fuel + 1) bs = some (items, rest) ↔
      (items = [] ∧ bs = 101 :: rest) ∨
      ∃ v vs mid, items = v :: vs ∧ read fuel bs = some (v, mid) ∧
        readItems fuel mid = some (vs, rest) := by
  rw [readItems.eq_def]
  split
  · contradiction
  · simp [read_end]
  · next heq _ =>
    obtain rfl := Nat.succ.inj heq
    simp [Option.bind_eq_some_iff]
    grind

theorem readEntries_eq_some_iff {entries : List (Bytes × Bencode)} :
    readEntries (fuel + 1) bs = some (entries, rest) ↔
      (entries = [] ∧ bs = 101 :: rest) ∨
      ∃ k v es behind mid, entries = (k, v) :: es ∧ readString bs = some (k, behind) ∧
        read fuel behind = some (v, mid) ∧ readEntries fuel mid = some (es, rest) ∧
        precedes k es = true := by
  rw [readEntries.eq_def]
  split
  · contradiction
  · simp [readString_of_not_digit (b := 101) rfl]
  · next heq _ =>
    obtain rfl := Nat.succ.inj heq
    simp [Option.bind_eq_some_iff]
    grind

end Step

/-! ## What is written is read back -/

theorem encodeEntries_append (es es' : List (Bytes × Bencode)) :
    encodeEntries (es ++ es') = encodeEntries es ++ encodeEntries es' := by
  induction es with
  | nil => rfl
  | cons e es ih => simp [encodeEntries, ih]

theorem encode_int_append (i : Int) (rest : Bytes) :
    (int i).encode ++ rest = 105 :: (Decimal.writeInt i ++ 101 :: rest) := by
  simp [encode, encodeInt, ascii]

theorem encode_list_append (items : List Bencode) (rest : Bytes) :
    (list items).encode ++ rest = 108 :: (encodeItems items ++ 101 :: rest) := by
  simp [encode, ascii]

theorem encode_dict_append (entries : List (Bytes × Bencode)) (rest : Bytes) :
    (dict entries).encode ++ rest = 100 :: (encodeEntries entries ++ 101 :: rest) := by
  simp [encode, ascii]

theorem length_encode_pos (v : Bencode) : 0 < v.encode.length := by
  cases v with
  | bytes bs =>
      obtain ⟨b, tail, hcons, -⟩ := encodeBytes_eq_cons bs
      simp [encode, hcons]
  | int i => simp [encode, encodeInt, ascii]
  | list items => simp [encode, ascii]
  | dict entries => simp [encode, ascii]

/-- With as much fuel as it has octets `v` is read back, whatever follows. -/
def ReadsBack (v : Bencode) : Prop :=
  ∀ fuel rest, v.encode.length ≤ fuel → read fuel (v.encode ++ rest) = some (v, rest)

/-- No value has no octets, so that there is fuel for one step. -/
theorem ReadsBack.of_succ {v : Bencode}
    (h : ∀ fuel rest, v.encode.length ≤ fuel + 1 →
      read (fuel + 1) (v.encode ++ rest) = some (v, rest)) : v.ReadsBack := by
  rintro (_ | fuel) rest hfuel
  · exact absurd hfuel (Nat.not_le_of_lt v.length_encode_pos)
  · exact h fuel rest hfuel

theorem readItems_encodeItems {items : List Bencode} (h : ∀ v ∈ items, v.ReadsBack)
    {fuel : Nat} (hfuel : (encodeItems items).length < fuel) (rest : Bytes) :
    readItems fuel (encodeItems items ++ 101 :: rest) = some (items, rest) := by
  induction items generalizing fuel with
  | nil =>
      obtain ⟨fuel, rfl⟩ := Nat.exists_eq_add_one_of_ne_zero (Nat.ne_zero_of_lt hfuel)
      exact readItems_eq_some_iff.mpr (.inl ⟨rfl, rfl⟩)
  | cons v vs ih =>
      obtain ⟨fuel, rfl⟩ := Nat.exists_eq_add_one_of_ne_zero (Nat.ne_zero_of_lt hfuel)
      have hpos := v.length_encode_pos
      rw [encodeItems, List.length_append] at hfuel
      rw [encodeItems, List.append_assoc, readItems_eq_some_iff]
      exact .inr ⟨v, vs, _, rfl, h v List.mem_cons_self fuel _ (by omega),
        ih (fun w hw => h w (List.mem_cons_of_mem v hw)) (by omega)⟩

theorem readEntries_encodeEntries {entries : List (Bytes × Bencode)}
    (h : ∀ e ∈ entries, e.2.ReadsBack) (hkeys : Increasing entries) {fuel : Nat}
    (hfuel : (encodeEntries entries).length < fuel) (rest : Bytes) :
    readEntries fuel (encodeEntries entries ++ 101 :: rest) = some (entries, rest) := by
  induction entries generalizing fuel with
  | nil =>
      obtain ⟨fuel, rfl⟩ := Nat.exists_eq_add_one_of_ne_zero (Nat.ne_zero_of_lt hfuel)
      exact readEntries_eq_some_iff.mpr (.inl ⟨rfl, rfl⟩)
  | cons e es ih =>
      obtain ⟨k, v⟩ := e
      obtain ⟨fuel, rfl⟩ := Nat.exists_eq_add_one_of_ne_zero (Nat.ne_zero_of_lt hfuel)
      obtain ⟨hfirst, hkeys⟩ := increasing_cons.mp hkeys
      have hpos := v.length_encode_pos
      have hv : v.ReadsBack := h (k, v) List.mem_cons_self
      rw [encodeEntries, List.length_append, List.length_append] at hfuel
      rw [encodeEntries, List.append_assoc, List.append_assoc, readEntries_eq_some_iff]
      exact .inr ⟨k, v, es, _, _, rfl, readString_encodeBytes k _, hv fuel _ (by omega),
        ih (fun e he => h e (List.mem_cons_of_mem _ he)) hkeys (by omega), hfirst⟩

theorem Canonical.readsBack {v : Bencode} (h : v.Canonical) : v.ReadsBack := by
  induction h with
  | int i =>
      refine .of_succ fun fuel rest _ => ?_
      rw [encode_int_append, read_eq_some_iff]
      exact .inl ⟨i, _, rfl, rfl, readSigned_writeInt i rfl⟩
  | bytes bs =>
      refine .of_succ fun fuel rest _ => ?_
      rw [read_eq_some_iff]
      exact .inr (.inr (.inr ⟨bs, rfl, readString_encodeBytes bs rest⟩))
  | @list items _ ih =>
      refine .of_succ fun fuel rest hfuel => ?_
      have hlength : (Bencode.list items).encode.length = (encodeItems items).length + 2 := by
        simp [encode, ascii]
      rw [encode_list_append, read_eq_some_iff]
      exact .inr (.inl ⟨items, _, rfl, rfl, readItems_encodeItems ih (by omega) rest⟩)
  | @dict entries hkeys _ ih =>
      refine .of_succ fun fuel rest hfuel => ?_
      have hlength :
          (Bencode.dict entries).encode.length = (encodeEntries entries).length + 2 := by
        simp [encode, ascii]
      rw [encode_dict_append, read_eq_some_iff]
      exact .inr (.inr (.inl ⟨entries, _, rfl, rfl,
        readEntries_encodeEntries ih hkeys (by omega) rest⟩))

/-! ## Nothing else is read

The reader and its two loops are sound together, by recursion on the fuel. -/

mutual

theorem read_sound : ∀ {fuel : Nat} {bs rest : Bytes} {v : Bencode},
    read fuel bs = some (v, rest) → v.Canonical ∧ bs = v.encode ++ rest
  | fuel + 1, bs, rest, v, h => by
      obtain ⟨i, tail, rfl, rfl, hread⟩ | ⟨items, tail, rfl, rfl, hread⟩ |
        ⟨entries, tail, rfl, rfl, hread⟩ | ⟨s, rfl, hread⟩ := read_eq_some_iff.mp h
      · refine ⟨.int i, ?_⟩
        rw [readSigned_sound hread]
        simp [encode, encodeInt, ascii]
      · obtain ⟨hitems, rfl⟩ := readItems_sound hread
        exact ⟨.list hitems, by simp [encode, ascii]⟩
      · obtain ⟨hkeys, hentries, rfl⟩ := readEntries_sound hread
        exact ⟨.dict hkeys hentries, by simp [encode, ascii]⟩
      · exact ⟨.bytes s, readString_sound hread⟩

theorem readItems_sound : ∀ {fuel : Nat} {bs rest : Bytes} {items : List Bencode},
    readItems fuel bs = some (items, rest) →
      (∀ v ∈ items, v.Canonical) ∧ bs = encodeItems items ++ 101 :: rest
  | fuel + 1, bs, rest, items, h => by
      obtain ⟨rfl, rfl⟩ | ⟨v, vs, mid, rfl, hread, hrest⟩ := readItems_eq_some_iff.mp h
      · exact ⟨by simp, rfl⟩
      · obtain ⟨hv, rfl⟩ := read_sound hread
        obtain ⟨hvs, rfl⟩ := readItems_sound hrest
        exact ⟨List.forall_mem_cons.mpr ⟨hv, hvs⟩, by simp [encodeItems]⟩

theorem readEntries_sound : ∀ {fuel : Nat} {bs rest : Bytes} {entries : List (Bytes × Bencode)},
    readEntries fuel bs = some (entries, rest) →
      Increasing entries ∧ (∀ e ∈ entries, e.2.Canonical) ∧
        bs = encodeEntries entries ++ 101 :: rest
  | fuel + 1, bs, rest, entries, h => by
      obtain ⟨rfl, rfl⟩ | ⟨k, v, es, behind, mid, rfl, hkey, hread, hrest, hfirst⟩ :=
        readEntries_eq_some_iff.mp h
      · exact ⟨.nil, by simp, rfl⟩
      · obtain rfl := readString_sound hkey
        obtain ⟨hv, rfl⟩ := read_sound hread
        obtain ⟨hkeys, hes, rfl⟩ := readEntries_sound hrest
        exact ⟨increasing_cons.mpr ⟨hfirst, hkeys⟩, List.forall_mem_cons.mpr ⟨hv, hes⟩,
          by simp [encodeEntries]⟩

end

/-- A byte string is read as a whole just if it is what a canonical value is written as. -/
theorem decode_eq_some_iff {bs : Bytes} {v : Bencode} :
    decode bs = some v ↔ v.Canonical ∧ bs = v.encode := by
  constructor
  · intro h
    unfold decode at h
    split at h
    · next w hread =>
      obtain rfl := Option.some.inj h
      obtain ⟨hw, heq⟩ := read_sound hread
      exact ⟨hw, by simpa using heq⟩
    · cases h
  · rintro ⟨hv, rfl⟩
    have hread := hv.readsBack (v.encode.length + 1) [] (Nat.le_succ _)
    rw [List.append_nil] at hread
    rw [decode, hread]

/-! ## Dictionaries from entries in any order -/

theorem Increasing.of_keys {es : List (Bytes × Bencode)}
    (h : (es.map Prod.fst).Pairwise fun a b => Bytes.before a b = true) : Increasing es :=
  List.pairwise_map.mp h

section InsertKey

variable {k : Bytes} {v : Bencode} {es : List (Bytes × Bencode)}

/-- The new entry comes in, and what had its key goes. -/
theorem mem_insertKey (hes : Increasing es) {e : Bytes × Bencode} :
    e ∈ insertKey k v es ↔ e = (k, v) ∨ e ∈ es ∧ e.1 ≠ k := by
  induction es with
  | nil => simp [insertKey]
  | cons x rest ih =>
      obtain ⟨hhead, hrest⟩ := List.pairwise_cons.mp hes
      rw [insertKey]
      by_cases hbefore : Bytes.before k x.1 = true
      · have hgreater : ∀ y ∈ x :: rest, y.1 ≠ k := by
          intro y hy
          rcases List.mem_cons.mp hy with rfl | hy
          · exact (Bytes.ne_of_before hbefore).symm
          · exact (Bytes.ne_of_before (Bytes.before_trans hbefore (hhead y hy))).symm
        rw [if_pos hbefore, List.mem_cons]
        exact or_congr_right ⟨fun he => ⟨he, hgreater e he⟩, And.left⟩
      · rw [if_neg hbefore]
        by_cases hsame : k = x.1
        · have hothers : ∀ y ∈ rest, y.1 ≠ k := fun y hy =>
            hsame ▸ (Bytes.ne_of_before (hhead y hy)).symm
          rw [if_pos hsame, List.mem_cons, List.mem_cons]
          refine or_congr_right ⟨fun he => ⟨.inr he, hothers e he⟩, ?_⟩
          rintro ⟨rfl | he, hne⟩
          · exact absurd hsame.symm hne
          · exact he
        · rw [if_neg hsame, List.mem_cons, List.mem_cons, ih hrest]
          constructor
          · rintro (rfl | rfl | ⟨he, hne⟩)
            · exact .inr ⟨.inl rfl, Ne.symm hsame⟩
            · exact .inl rfl
            · exact .inr ⟨.inr he, hne⟩
          · rintro (rfl | ⟨rfl | he, hne⟩)
            · exact .inr (.inl rfl)
            · exact .inl rfl
            · exact .inr (.inr ⟨he, hne⟩)

theorem Increasing.insertKey (hes : Increasing es) : Increasing (insertKey k v es) := by
  induction es with
  | nil => exact List.pairwise_singleton _ _
  | cons x rest ih =>
      obtain ⟨hhead, hrest⟩ := List.pairwise_cons.mp hes
      rw [Bencode.insertKey]
      split
      · next hbefore =>
        refine List.pairwise_cons.mpr ⟨fun y hy => ?_, hes⟩
        rcases List.mem_cons.mp hy with rfl | hy
        · exact hbefore
        · exact Bytes.before_trans hbefore (hhead y hy)
      · next hbefore =>
        split
        · next hsame =>
          refine List.pairwise_cons.mpr ⟨fun y hy => ?_, hrest⟩
          show Bytes.before k y.1 = true
          rw [hsame]
          exact hhead y hy
        · next hother =>
          refine List.pairwise_cons.mpr ⟨fun y hy => ?_, ih hrest⟩
          rcases (mem_insertKey hrest).mp hy with rfl | ⟨hy, -⟩
          · exact (Bytes.before_total hother).resolve_left hbefore
          · exact hhead y hy

end InsertKey

/-- Entries of one key are one entry, written more than once perhaps. -/
def Consistent (es : List (Bytes × Bencode)) : Prop :=
  ∀ a ∈ es, ∀ b ∈ es, a.1 = b.1 → a = b

theorem foldl_insertKey (es : List (Bytes × Bencode)) {acc : List (Bytes × Bencode)}
    (hacc : Increasing acc) (hes : Consistent (acc ++ es)) :
    Increasing (es.foldl (fun d e => insertKey e.1 e.2 d) acc) ∧
      ∀ e, e ∈ es.foldl (fun d e => insertKey e.1 e.2 d) acc ↔ e ∈ acc ++ es := by
  induction es generalizing acc with
  | nil => exact ⟨hacc, fun e => by rw [List.append_nil]; rfl⟩
  | cons x es ih =>
      -- what `x` replaces, if anything, is `x`
      have hinsert : ∀ e, e ∈ insertKey x.1 x.2 acc ++ es ↔ e ∈ acc ++ x :: es := by
        intro e
        rw [List.mem_append, mem_insertKey hacc, List.mem_append, List.mem_cons]
        constructor
        · rintro ((rfl | ⟨he, -⟩) | he)
          · exact .inr (.inl rfl)
          · exact .inl he
          · exact .inr (.inr he)
        · rintro (he | rfl | he)
          · by_cases hkey : e.1 = x.1
            · exact .inl (.inl (hes e (by simp [he]) x (by simp) hkey))
            · exact .inl (.inr ⟨he, hkey⟩)
          · exact .inl (.inl rfl)
          · exact .inr he
      have hconsistent : Consistent (insertKey x.1 x.2 acc ++ es) := fun a ha b hb =>
        hes a ((hinsert a).mp ha) b ((hinsert b).mp hb)
      obtain ⟨hincreasing, hmem⟩ := ih hacc.insertKey hconsistent
      exact ⟨hincreasing, fun e => (hmem e).trans (hinsert e)⟩

/-- A dictionary has the entries that it is made of, in the order of their keys. -/
theorem exists_dictOf_eq {es : List (Bytes × Bencode)} (h : Consistent es) :
    ∃ es', dictOf es = dict es' ∧ Increasing es' ∧ ∀ e, e ∈ es' ↔ e ∈ es :=
  ⟨_, rfl, foldl_insertKey es .nil h⟩

theorem Increasing.nodup {es : List (Bytes × Bencode)} (h : Increasing es) :
    (es.map Prod.fst).Nodup :=
  List.pairwise_map.mpr (h.imp Bytes.ne_of_before)

theorem Increasing.eq_of_perm {es es' : List (Bytes × Bencode)} (h : Increasing es)
    (h' : Increasing es') (hperm : es.Perm es') : es = es' := by
  refine hperm.eq_of_pairwise (fun a b _ _ hab hba => ?_) h h'
  have hcycle := Bytes.before_trans hab hba
  rw [Bytes.before_irrefl] at hcycle
  cases hcycle

/-- The order in which entries are given is nothing to a dictionary. -/
theorem dictOf_of_perm {es es' : List (Bytes × Bencode)} (hperm : es.Perm es')
    (h : Increasing es') : dictOf es = dict es' := by
  have hkeys : (es.map Prod.fst).Nodup := (hperm.map Prod.fst).nodup_iff.mpr h.nodup
  obtain ⟨sorted, hdict, hsorted, hmem⟩ :=
    exists_dictOf_eq fun a ha b hb => List.inj_on_of_nodup_map hkeys ha hb
  rw [hdict, hsorted.eq_of_perm h]
  exact ((List.perm_ext_iff_of_nodup hsorted.nodup.of_map hkeys.of_map).mpr hmem).trans hperm

end Bencode

end PeerTracker
