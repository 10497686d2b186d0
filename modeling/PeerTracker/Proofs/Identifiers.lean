import PeerTracker.Proofs.SnapshotCodec
import PeerTracker.Proofs.Texts

/-!
# Texts of identifiers

An identifier is read from forty hexadecimal digits of either case and from nothing else, and
what was read is written as the same text in lower case (`Identifier.ofText_eq_ok_iff`). So
there is one written form for each identifier. Texts of identifiers are ordered as the
identifiers are: the octets that the sixteen digits are written with stand in the order of
what they are worth (`Hex.before_encodeString`).
-/

namespace PeerTracker

/-- Text of ASCII only is written as its code points. -/
theorem Utf8.ofString_eq_ascii {s : String} (h : ∀ c ∈ s.toList, c.toNat < 128) :
    ofString s = ascii s := by
  have hencode : ∀ cs : List Char, (∀ c ∈ cs, c.toNat < 128) →
      encode cs = cs.map fun c => UInt8.ofNat c.toNat := by
    intro cs hcs
    induction cs with
    | nil => rfl
    | cons c cs ih =>
        obtain ⟨hc, hcs⟩ := List.forall_mem_cons.mp hcs
        have hone : String.utf8EncodeChar c = [UInt8.ofNat c.toNat] :=
          if_pos (Nat.le_of_lt_succ hc)
        rw [encode, List.flatMap_cons, hone, List.map_cons]
        exact congrArg _ (ih hcs)
  exact hencode s.toList h

namespace Hex

/-! ## Digits -/

/-- A hexadecimal digit of either case. -/
def IsDigit (c : Char) : Prop :=
  '0' ≤ c ∧ c ≤ '9' ∨ 'a' ≤ c ∧ c ≤ 'f' ∨ 'A' ≤ c ∧ c ≤ 'F'

instance : DecidablePred IsDigit := fun _ => inferInstanceAs (Decidable (_ ∨ _))

theorem IsDigit.toNat_lt {c : Char} (h : IsDigit c) : c.toNat < 128 := by
  have hle : ∀ d : Char, c ≤ d → c.toNat ≤ d.toNat := fun _ hcd => hcd
  rcases h with ⟨-, h⟩ | ⟨-, h⟩ | ⟨-, h⟩
  · exact Nat.lt_of_le_of_lt (hle _ h) (by decide)
  · exact Nat.lt_of_le_of_lt (hle _ h) (by decide)
  · exact Nat.lt_of_le_of_lt (hle _ h) (by decide)

theorem isSome_digit?_ascii :
    ∀ n < 128, (digit? (UInt8.ofNat n)).isSome = true ↔ IsDigit (Char.ofNat n) := by
  decide

/-- What begins or continues a longer sequence is no digit. -/
theorem digit?_of_le {b : UInt8} (h : 128 ≤ b.toNat) : digit? b = none := by
  have habove : ∀ c : UInt8, c.toNat < 128 → ¬b ≤ c := by
    intro c hc hle
    exact absurd (UInt8.le_iff_toNat_le.mp hle) (by omega)
  simp [digit?, habove 57 (by decide), habove 102 (by decide), habove 70 (by decide)]

/-- An octet as a character in lower case. -/
def lowered (b : UInt8) : Char := (Char.ofNat b.toNat).toLower

/-- A digit is worth less than sixteen, and is written in lower case again. -/
theorem digitChar_of_digit? {b : UInt8} {v : Nat} (h : digit? b = some v) :
    v < 16 ∧ digitChar v = lowered b := by
  have hall : ∀ n < 128, ∀ v ∈ digit? (UInt8.ofNat n),
      v < 16 ∧ digitChar v = (Char.ofNat n).toLower := by decide
  have hascii : b.toNat < 128 := by
    refine Nat.lt_of_not_le fun hlarge => ?_
    rw [digit?_of_le hlarge] at h
    cases h
  refine hall b.toNat hascii v ?_
  rw [UInt8.ofNat_toNat]
  exact h

/-- The octets of a character are all digits just if the character is one. -/
theorem forall_utf8EncodeChar_iff (c : Char) :
    (∀ b ∈ String.utf8EncodeChar c, (digit? b).isSome = true) ↔ IsDigit c := by
  by_cases hascii : c.toNat < 128
  · have hone : String.utf8EncodeChar c = [UInt8.ofNat c.toNat] :=
      if_pos (Nat.le_of_lt_succ hascii)
    rw [hone, List.forall_mem_singleton, isSome_digit?_ascii c.toNat hascii, Char.ofNat_toNat]
  · constructor
    · intro h
      -- the last octet of a longer sequence goes on from another
      have hlast : UInt8.ofNat (c.val.toNat % 64 + 128) ∈ String.utf8EncodeChar c := by
        have hlong : ¬c.val.toNat ≤ 127 := fun hle => hascii (Nat.lt_succ_of_le hle)
        unfold String.utf8EncodeChar
        dsimp only
        rw [if_neg hlong]
        split
        · simp
        split <;> simp
      have hoctet : (UInt8.ofNat (c.val.toNat % 64 + 128)).toNat = c.val.toNat % 64 + 128 :=
        Utf8.toNat_octet (by omega)
      have hsome := h _ hlast
      rw [digit?_of_le (by omega)] at hsome
      cases hsome
    · exact fun h => absurd h.toNat_lt hascii

theorem forall_ofString_iff (s : String) :
    (∀ b ∈ Utf8.ofString s, (digit? b).isSome = true) ↔ ∀ c ∈ s.toList, IsDigit c := by
  simp only [Utf8.ofString, Utf8.encode, List.mem_flatMap, forall_exists_index, and_imp,
    ← forall_utf8EncodeChar_iff]
  constructor
  · exact fun h c hc b hb => h b c hc hb
  · exact fun h b c hc hb => h c hc b hb

/-! ## Reading -/

theorem exists_pairs {bs : Bytes} (position : Nat) (h : ∀ b ∈ bs, (digit? b).isSome = true) :
    ∃ out, pairs position bs = .ok out := by
  fun_induction pairs position bs with
  | case1 position hi lo rest hhi =>
      have hsome := h hi List.mem_cons_self
      rw [hhi] at hsome
      cases hsome
  | case2 position hi lo rest d hlo hhi =>
      have hsome := h lo (List.mem_cons_of_mem _ List.mem_cons_self)
      rw [hlo] at hsome
      cases hsome
  | case3 position hi lo rest d e hlo hhi ih =>
      obtain ⟨out, hout⟩ := ih fun b hb => h b (List.mem_cons_of_mem _ (List.mem_cons_of_mem _ hb))
      exact ⟨_, by rw [hout]; rfl⟩
  | case4 digits position => exact ⟨[], rfl⟩

/-- Of whole pairs all digits are read, and written they are the same in lower case. -/
theorem encode_of_pairs {position : Nat} {bs out : Bytes} (heven : bs.length % 2 = 0)
    (h : pairs position bs = .ok out) :
    (∀ b ∈ bs, (digit? b).isSome = true) ∧ encode out = bs.map lowered := by
  fun_induction pairs position bs generalizing out with
  | case1 => cases h
  | case2 => cases h
  | case3 position hi lo rest d e hlo hhi ih =>
      obtain ⟨tail, htail, rfl⟩ : ∃ tail, pairs (position + 2) rest = .ok tail ∧
          out = UInt8.ofNat (16 * d + e) :: tail := by
        cases hrest : pairs (position + 2) rest with
        | error e => rw [hrest] at h; cases h
        | ok tail => rw [hrest] at h; exact ⟨tail, rfl, (Except.ok.inj h).symm⟩
      obtain ⟨hdigits, hencode⟩ := ih (by simp at heven; omega) htail
      obtain ⟨hd, hhiChar⟩ := digitChar_of_digit? hhi
      obtain ⟨he, hloChar⟩ := digitChar_of_digit? hlo
      refine ⟨?_, ?_⟩
      · rw [List.forall_mem_cons, List.forall_mem_cons, hhi, hlo]
        exact ⟨rfl, rfl, hdigits⟩
      · have hoctet : (UInt8.ofNat (16 * d + e)).toNat = 16 * d + e :=
          Utf8.toNat_octet (by omega)
        have hhigh : (16 * d + e) / 16 = d := by omega
        have hlow : (16 * d + e) % 16 = e := by omega
        rw [encode, List.flatMap_cons, hoctet, hhigh, hlow, hhiChar, hloChar, List.map_cons,
          List.map_cons, ← hencode]
        rfl
  | case4 digits position hshort =>
      obtain rfl := Except.ok.inj h
      cases digits with
      | nil => exact ⟨fun _ hb => absurd hb List.not_mem_nil, rfl⟩
      | cons b rest =>
          cases rest with
          | nil => cases heven
          | cons c rest => exact absurd rfl (hshort b c rest)

theorem ascii_encodeString_inj {as bs : Bytes}
    (h : ascii (encodeString as) = ascii (encodeString bs)) : as = bs := by
  have hread := pairs_ascii_encodeString as 0
  rw [h, pairs_ascii_encodeString] at hread
  exact (Except.ok.inj hread).symm

theorem encode_inj {as bs : Bytes} (h : encode as = encode bs) : as = bs :=
  ascii_encodeString_inj (by rw [encodeString, h, encodeString])

/-- What is read is told by what is written again. -/
theorem decode_eq_ok_iff {size : Nat} {text out : Bytes} :
    decode size text = .ok out ↔ text.length = 2 * size ∧
      (∀ b ∈ text, (digit? b).isSome = true) ∧ encode out = text.map lowered := by
  constructor
  · intro h
    unfold decode at h
    split at h
    · cases h
    split at h
    · cases h
    · next heven hlength =>
      exact ⟨not_not.mp hlength, encode_of_pairs (not_not.mp heven) h⟩
  · rintro ⟨hlength, hdigits, hencode⟩
    have heven : text.length % 2 = 0 := by omega
    obtain ⟨read, hread⟩ := exists_pairs 0 hdigits
    obtain ⟨-, hsame⟩ := encode_of_pairs heven hread
    rw [decode, if_neg (not_not.mpr heven), if_neg (not_not.mpr hlength), hread,
      encode_inj (hsame.trans hencode.symm)]

/-! ## Order -/

/-- The octets of the sixteen digits stand in the order of what they are worth. -/
theorem octet_lt_iff : ∀ m < 16, ∀ n < 16,
    UInt8.ofNat (digitChar m).toNat < UInt8.ofNat (digitChar n).toNat ↔ m < n := by
  decide

theorem octet_eq_iff : ∀ m < 16, ∀ n < 16,
    UInt8.ofNat (digitChar m).toNat = UInt8.ofNat (digitChar n).toNat ↔ m = n := by
  decide

/-- Numbers are compared by their quotients first, and by their remainders where these agree. -/
theorem lt_or_iff_div_mod (m n : Nat) (tie : Prop) :
    (m / 16 < n / 16 ∨ m / 16 = n / 16 ∧ (m % 16 < n % 16 ∨ m % 16 = n % 16 ∧ tie)) ↔
      m < n ∨ m = n ∧ tie := by
  by_cases h : tie
  · simp only [h, and_true]
    omega
  · simp only [h, and_false, or_false]
    omega

/-- The two digits of an octet decide as the octet does. -/
theorem before_encodeString (as bs : Bytes) :
    Bytes.before (ascii (encodeString as)) (ascii (encodeString bs)) = Bytes.before as bs := by
  rw [ascii_encodeString, ascii_encodeString]
  induction as generalizing bs with
  | nil => cases bs <;> rfl
  | cons a as ih =>
      cases bs with
      | nil => rfl
      | cons b bs =>
          have ha := a.toNat_lt
          have hb := b.toNat_lt
          have hhigh := octet_lt_iff (a.toNat / 16) (by omega) (b.toNat / 16) (by omega)
          have hlow := octet_lt_iff (a.toNat % 16) (by omega) (b.toNat % 16) (by omega)
          have hhighEq := octet_eq_iff (a.toNat / 16) (by omega) (b.toNat / 16) (by omega)
          have hlowEq := octet_eq_iff (a.toNat % 16) (by omega) (b.toNat % 16) (by omega)
          rw [Bool.eq_iff_iff]
          simp only [List.flatMap_cons, List.cons_append, List.nil_append, Bytes.before, ih,
            Bool.or_eq_true, Bool.and_eq_true, decide_eq_true_eq, beq_iff_eq, hhigh, hlow,
            hhighEq, hlowEq, UInt8.lt_iff_toNat_lt, ← UInt8.toNat_inj]
          exact lt_or_iff_div_mod a.toNat b.toNat _

theorem order_encodeString (as bs : Bytes) :
    Bytes.order (ascii (encodeString as)) (ascii (encodeString bs)) = Bytes.order as bs := by
  have hiff : ascii (encodeString as) = ascii (encodeString bs) ↔ as = bs :=
    ⟨ascii_encodeString_inj, fun h => h ▸ rfl⟩
  simp only [Bytes.order, before_encodeString, hiff]

end Hex

namespace Identifier

/-! ## Identifiers -/

/-- Forty hexadecimal digits of either case. -/
def IsText (s : String) : Prop := s.length = 40 ∧ ∀ c ∈ s.toList, Hex.IsDigit c

theorem ofText_eq_ok_iff_decode {s : String} {i : Identifier} :
    ofText s = .ok i ↔ Hex.decode 20 (Utf8.ofString s) = .ok i.bytes := by
  unfold ofText
  cases hdecode : Hex.decode 20 (Utf8.ofString s) with
  | error e => exact ⟨nofun, nofun⟩
  | ok bs =>
      dsimp only [bind, Except.bind]
      rw [Except.ok.injEq]
      constructor
      · intro h
        cases hbs : ofBytes? bs with
        | none => rw [hbs] at h; cases h
        | some j =>
            rw [hbs] at h
            rw [← Except.ok.inj h, bytes_of_ofBytes? hbs]
      · rintro rfl
        rw [ofBytes?_bytes]
        rfl

/-- A text is read if it has forty digits, as the identifier of which it is the text but for
the case of its letters. -/
theorem ofText_eq_ok_iff {s : String} {i : Identifier} :
    ofText s = .ok i ↔ IsText s ∧ i.toText = s.toLower := by
  have hascii : (∀ c ∈ s.toList, Hex.IsDigit c) → Utf8.ofString s = ascii s := fun h =>
    Utf8.ofString_eq_ascii fun c hc => (h c hc).toNat_lt
  have hlower : (∀ c ∈ s.toList, Hex.IsDigit c) →
      (ascii s).map Hex.lowered = s.toLower.toList := by
    intro h
    have hmap : s.toLower = s.map Char.toLower := rfl
    rw [ascii, List.map_map, hmap, String.toList_map]
    refine List.map_congr_left fun c hc => ?_
    show (Char.ofNat (UInt8.ofNat c.toNat).toNat).toLower = c.toLower
    rw [Utf8.toNat_octet (Nat.lt_trans (h c hc).toNat_lt (by decide)), Char.ofNat_toNat]
  have htext : i.toText = s.toLower ↔ Hex.encode i.bytes = s.toLower.toList := by
    rw [toText, Hex.encodeString, ← String.toList_inj, String.toList_ofList]
  rw [ofText_eq_ok_iff_decode, Hex.decode_eq_ok_iff, Hex.forall_ofString_iff, htext]
  constructor
  · rintro ⟨hlength, hdigits, hencode⟩
    rw [hascii hdigits] at hlength hencode
    rw [ascii, List.length_map, String.length_toList] at hlength
    exact ⟨⟨hlength, hdigits⟩, hencode.trans (hlower hdigits)⟩
  · rintro ⟨⟨hlength, hdigits⟩, hencode⟩
    rw [hascii hdigits, hlower hdigits, ascii, List.length_map, String.length_toList]
    exact ⟨hlength, hdigits, hencode⟩

/-- Every text of this form is that of some identifier. -/
theorem exists_ofText_iff {s : String} : (∃ i, ofText s = .ok i) ↔ IsText s := by
  constructor
  · rintro ⟨i, hi⟩
    exact (ofText_eq_ok_iff.mp hi).1
  · rintro ⟨hlength, hdigits⟩
    have hascii : Utf8.ofString s = ascii s :=
      Utf8.ofString_eq_ascii fun c hc => (hdigits c hc).toNat_lt
    have hforty : (Utf8.ofString s).length = 2 * 20 := by
      rw [hascii, ascii, List.length_map, String.length_toList, hlength]
    obtain ⟨out, hout⟩ := Hex.exists_pairs 0 ((Hex.forall_ofString_iff s).mpr hdigits)
    have hdecode : Hex.decode 20 (Utf8.ofString s) = .ok out := by
      rw [Hex.decode, if_neg (by omega), if_neg (not_not.mpr hforty), hout]
    obtain ⟨-, -, hencode⟩ := Hex.decode_eq_ok_iff.mp hdecode
    have hwritten : (ascii (Hex.encodeString out)).length = 2 * 20 := by
      rw [ascii, List.length_map, Hex.encodeString, String.toList_ofList, hencode,
        List.length_map, hforty]
    rw [Hex.length_ascii_encodeString] at hwritten
    exact ⟨⟨out, by omega⟩, ofText_eq_ok_iff_decode.mpr hdecode⟩

theorem isDigit_of_mem_toText {i : Identifier} {c : Char} (h : c ∈ i.toText.toList) :
    Hex.IsDigit c := by
  have hall : ∀ n < 16, Hex.IsDigit (Hex.digitChar n) := by decide
  rw [toText, Hex.encodeString, String.toList_ofList, Hex.encode] at h
  obtain ⟨b, -, hc⟩ := List.mem_flatMap.mp h
  have hb := b.toNat_lt
  rcases List.mem_cons.mp hc with rfl | hc
  · exact hall _ (by omega)
  · rw [List.mem_singleton.mp hc]
    exact hall _ (by omega)

theorem ofString_toText (i : Identifier) : Utf8.ofString i.toText = ascii i.toText :=
  Utf8.ofString_eq_ascii fun _ hc => (isDigit_of_mem_toText hc).toNat_lt

/-- What is written is read again. -/
theorem ofText_toText (i : Identifier) : ofText i.toText = .ok i := by
  have hdecode := Hex.decode_ascii_encodeString i.bytes
  rw [i.length_eq] at hdecode
  rw [ofText_eq_ok_iff_decode, ofString_toText]
  exact hdecode

theorem toText_inj {i j : Identifier} (h : i.toText = j.toText) : i = j := by
  have hread := ofText_toText i
  rw [h, ofText_toText] at hread
  exact (Except.ok.inj hread).symm

/-- Of the values of a data format, the texts of identifiers are read. -/
theorem ofShape_eq_ok_iff {v : Shape} {i : Identifier} :
    ofShape v = .ok i ↔ ∃ s, v = .text s ∧ ofText s = .ok i := by
  cases v with
  | text s =>
      have hread : ofShape (.text s) = .ok i ↔ ofText s = .ok i := by
        rw [ofShape]
        cases ofText s with
        | error e => exact ⟨nofun, nofun⟩
        | ok j => simp only [Except.ok.injEq]
      rw [hread]
      constructor
      · exact fun h => ⟨s, rfl, h⟩
      · rintro ⟨_, ⟨⟩, h⟩
        exact h
  | _ => exact ⟨nofun, fun ⟨_, h, _⟩ => nomatch h⟩

/-- Snapshots read the same texts. -/
theorem identifier?_str_eq_some_iff {s : String} {i : Identifier} :
    Snapshot.identifier? (.str (Utf8.ofString s)) = some i ↔ ofText s = .ok i := by
  rw [ofText_eq_ok_iff_decode, Snapshot.identifier?]
  cases Hex.decode 20 (Utf8.ofString s) with
  | error e => exact ⟨nofun, nofun⟩
  | ok bs =>
      rw [Except.ok.injEq]
      show ofBytes? bs = some i ↔ bs = i.bytes
      constructor
      · exact fun h => (bytes_of_ofBytes? h).symm
      · rintro rfl
        exact i.ofBytes?_bytes

/-- The order of identifiers is that of the octets of their texts. -/
theorem compare_eq_order_toText (i j : Identifier) :
    i.compare j = Bytes.order (Utf8.ofString i.toText) (Utf8.ofString j.toText) := by
  rw [ofString_toText, ofString_toText]
  exact (Hex.order_encodeString i.bytes j.bytes).symm

/-- Identifiers and their texts correspond. The texts are those of forty digits, up to the case
of letters; each way of reading takes them and nothing else; what is written is in lower case
and is read again; and the texts are ordered as the identifiers are. -/
theorem texts_are_canonical :
    (∀ s, (∃ i, ofText s = .ok i) ↔ IsText s) ∧
    (∀ s i, ofText s = .ok i → i.toText = s.toLower) ∧
    (∀ i, ofText i.toText = .ok i) ∧
    (∀ v i, ofShape v = .ok i ↔ ∃ s, v = .text s ∧ ofText s = .ok i) ∧
    (∀ s i, Snapshot.identifier? (.str (Utf8.ofString s)) = some i ↔ ofText s = .ok i) ∧
    (∀ i, Snapshot.identifier? (Snapshot.identifierValue i) = some i) ∧
    ∀ i j : Identifier,
      i.compare j = Bytes.order (Utf8.ofString i.toText) (Utf8.ofString j.toText) :=
  ⟨fun _ => exists_ofText_iff, fun _ _ h => (ofText_eq_ok_iff.mp h).2, ofText_toText,
    fun _ _ => ofShape_eq_ok_iff, fun _ _ => identifier?_str_eq_some_iff,
    Snapshot.identifier?_identifierValue, compare_eq_order_toText⟩

end Identifier

end PeerTracker
