import PeerTracker.Text.Utf8

/-!
# Reading a written text

The lenient reader gives back every text that was written (`lossyString_ofString`). A
character is written as a lead octet and up to three octets of six bits each; the range
that the reader allows for the second of them is just the one in which characters of that
length lie, so that nothing that was written is taken for malformed.
-/

namespace PeerTracker.Utf8

theorem lossy_of_lt {lead : UInt8} (h : lead < 0x80) (rest : Bytes) :
    lossy (lead :: rest) = Char.ofNat lead.toNat :: lossy rest := by
  rw [lossy, if_pos h]

/-- A sequence that begins as its lead octet wants it is read as one character. -/
theorem lossy_sequence (more : Bytes) {lead lo hi b : UInt8} (hlead : 0x80 ≤ lead)
    (hfollow : follow lead = some (more.length + 1, lo, hi)) (hlo : lo ≤ b) (hhi : b ≤ hi)
    (hmore : ∀ x ∈ more, isContinuation x = true) (rest : Bytes) :
    lossy (lead :: b :: more ++ rest) = assemble lead (b :: more) :: lossy rest := by
  have hextent : extent lead (b :: more ++ rest) = more.length + 1 := by
    have hrange : (decide (lo ≤ b) && decide (b ≤ hi)) = true := by simp [hlo, hhi]
    have hwhole : more.takeWhile isContinuation = more := by
      rw [← List.append_nil more, List.takeWhile_append_of_pos hmore]
      simp
    simp only [extent, hfollow, List.cons_append]
    rw [if_pos hrange, Nat.add_sub_cancel, List.take_left' rfl, hwhole, Nat.add_comm]
  have htail : (b :: more ++ rest).take (more.length + 1) = b :: more := List.take_left' rfl
  have hrest : (b :: more ++ rest).drop (more.length + 1) = rest := List.drop_left' rfl
  show lossy (lead :: (b :: more ++ rest)) = _
  rw [lossy, if_neg (UInt8.not_lt.mpr hlead)]
  simp only [hextent, htail, hrest, hfollow]
  simp

theorem toNat_octet {n : Nat} (h : n < 256) : (UInt8.ofNat n).toNat = n :=
  UInt8.toNat_ofNat_of_lt' h

theorem octet_le {m n : Nat} (h : m ≤ n) (hn : n < 256) : UInt8.ofNat m ≤ UInt8.ofNat n := by
  rw [UInt8.le_iff_toNat_le, toNat_octet (Nat.lt_of_le_of_lt h hn), toNat_octet hn]
  exact h

theorem isContinuation_octet {n : Nat} (h : n < 64) :
    isContinuation (UInt8.ofNat (n + 128)) = true := by
  have hlow : (0x80 : UInt8) ≤ UInt8.ofNat (n + 128) := octet_le (m := 128) (by omega) (by omega)
  have hhigh : UInt8.ofNat (n + 128) ≤ (0xBF : UInt8) := octet_le (n := 191) (by omega) (by omega)
  rw [isContinuation, decide_eq_true hlow, decide_eq_true hhigh]
  rfl

theorem follow_two : ∀ k < 32, 2 ≤ k → follow (UInt8.ofNat (k + 192)) = some (1, 0x80, 0xBF) := by
  decide

/-- Of three octets, the first lead leaves out what fits in two, and the last but two leaves
out the surrogates. -/
theorem follow_three : ∀ k < 16, follow (UInt8.ofNat (k + 224)) =
    some (2, if k = 0 then 0xA0 else 0x80, if k = 13 then 0x9F else 0xBF) := by
  decide

/-- Of four octets, the first lead leaves out what fits in three, and the last what is
beyond the code points. -/
theorem follow_four : ∀ k < 5, follow (UInt8.ofNat (k + 240)) =
    some (3, if k = 0 then 0x90 else 0x80, if k = 4 then 0x8F else 0xBF) := by
  decide

theorem assemble_two {k x : Nat} (hk : k < 32) (hx : x < 64) :
    assemble (UInt8.ofNat (k + 192)) [UInt8.ofNat (x + 128)] = Char.ofNat (k * 64 + x) := by
  show Char.ofNat ((UInt8.ofNat (k + 192)).toNat % 32 * 64 + (UInt8.ofNat (x + 128)).toNat % 64) = _
  rw [toNat_octet (by omega), toNat_octet (by omega)]
  exact congrArg Char.ofNat (by omega)

theorem assemble_three {k x y : Nat} (hk : k < 16) (hx : x < 64) (hy : y < 64) :
    assemble (UInt8.ofNat (k + 224)) [UInt8.ofNat (x + 128), UInt8.ofNat (y + 128)] =
      Char.ofNat ((k * 64 + x) * 64 + y) := by
  show Char.ofNat (((UInt8.ofNat (k + 224)).toNat % 16 * 64 + (UInt8.ofNat (x + 128)).toNat % 64)
    * 64 + (UInt8.ofNat (y + 128)).toNat % 64) = _
  rw [toNat_octet (by omega), toNat_octet (by omega), toNat_octet (by omega)]
  exact congrArg Char.ofNat (by omega)

theorem assemble_four {k x y z : Nat} (hk : k < 8) (hx : x < 64) (hy : y < 64) (hz : z < 64) :
    assemble (UInt8.ofNat (k + 240))
        [UInt8.ofNat (x + 128), UInt8.ofNat (y + 128), UInt8.ofNat (z + 128)] =
      Char.ofNat (((k * 64 + x) * 64 + y) * 64 + z) := by
  show Char.ofNat ((((UInt8.ofNat (k + 240)).toNat % 8 * 64 + (UInt8.ofNat (x + 128)).toNat % 64)
    * 64 + (UInt8.ofNat (y + 128)).toNat % 64) * 64 + (UInt8.ofNat (z + 128)).toNat % 64) = _
  rw [toNat_octet (by omega), toNat_octet (by omega), toNat_octet (by omega),
    toNat_octet (by omega)]
  exact congrArg Char.ofNat (by omega)

theorem lossy_two {k x : Nat} (hk : k < 32) (hk' : 2 ≤ k) (hx : x < 64) (rest : Bytes) :
    lossy ([UInt8.ofNat (k + 192), UInt8.ofNat (x + 128)] ++ rest) =
      Char.ofNat (k * 64 + x) :: lossy rest := by
  rw [← assemble_two hk hx]
  exact lossy_sequence [] (octet_le (m := 128) (by omega) (by omega))
    (follow_two k hk hk') (octet_le (m := 128) (by omega) (by omega))
    (octet_le (n := 191) (by omega) (by omega)) (fun _ h => absurd h List.not_mem_nil) rest

theorem lossy_three {k x y : Nat} (hk : k < 16) (hlow : k = 0 → 32 ≤ x) (hhigh : k = 13 → x < 32)
    (hx : x < 64) (hy : y < 64) (rest : Bytes) :
    lossy ([UInt8.ofNat (k + 224), UInt8.ofNat (x + 128), UInt8.ofNat (y + 128)] ++ rest) =
      Char.ofNat ((k * 64 + x) * 64 + y) :: lossy rest := by
  have hlo : (if k = 0 then 0xA0 else 0x80) ≤ UInt8.ofNat (x + 128) := by
    split
    · next h => exact octet_le (m := 160) (by have := hlow h; omega) (by omega)
    · exact octet_le (m := 128) (by omega) (by omega)
  have hhi : UInt8.ofNat (x + 128) ≤ if k = 13 then 0x9F else 0xBF := by
    split
    · next h => exact octet_le (n := 159) (by have := hhigh h; omega) (by omega)
    · exact octet_le (n := 191) (by omega) (by omega)
  rw [← assemble_three hk hx hy]
  refine lossy_sequence [UInt8.ofNat (y + 128)]
    (octet_le (m := 128) (by omega) (by omega)) (follow_three k hk) hlo hhi ?_ rest
  intro b hb
  rw [List.mem_singleton.mp hb]
  exact isContinuation_octet hy

theorem lossy_four {k x y z : Nat} (hk : k < 5) (hlow : k = 0 → 16 ≤ x) (hhigh : k = 4 → x < 16)
    (hx : x < 64) (hy : y < 64) (hz : z < 64) (rest : Bytes) :
    lossy ([UInt8.ofNat (k + 240), UInt8.ofNat (x + 128), UInt8.ofNat (y + 128),
        UInt8.ofNat (z + 128)] ++ rest) =
      Char.ofNat (((k * 64 + x) * 64 + y) * 64 + z) :: lossy rest := by
  have hlo : (if k = 0 then 0x90 else 0x80) ≤ UInt8.ofNat (x + 128) := by
    split
    · next h => exact octet_le (m := 144) (by have := hlow h; omega) (by omega)
    · exact octet_le (m := 128) (by omega) (by omega)
  have hhi : UInt8.ofNat (x + 128) ≤ if k = 4 then 0x8F else 0xBF := by
    split
    · next h => exact octet_le (n := 143) (by have := hhigh h; omega) (by omega)
    · exact octet_le (n := 191) (by omega) (by omega)
  rw [← assemble_four (by omega) hx hy hz]
  refine lossy_sequence [UInt8.ofNat (y + 128), UInt8.ofNat (z + 128)]
    (octet_le (m := 128) (by omega) (by omega)) (follow_four k hk) hlo hhi ?_ rest
  intro b hb
  rcases List.mem_cons.mp hb with rfl | hb
  · exact isContinuation_octet hy
  · rw [List.mem_singleton.mp hb]
    exact isContinuation_octet hz

theorem lossy_utf8EncodeChar (c : Char) (rest : Bytes) :
    lossy (String.utf8EncodeChar c ++ rest) = c :: lossy rest := by
  have hvalid : c.val.toNat < 0xD800 ∨ 0xDFFF < c.val.toNat ∧ c.val.toNat < 0x110000 := c.valid
  have hofNat : Char.ofNat c.val.toNat = c := Char.ofNat_toNat c
  unfold String.utf8EncodeChar
  generalize c.val.toNat = v at hvalid hofNat
  -- one case for each length; in each the digits of `v` are those of the octets
  rw [← hofNat]
  dsimp only
  split
  · next h1 =>
    have hlt : UInt8.ofNat v < 0x80 := by
      rw [UInt8.lt_iff_toNat_lt, toNat_octet (by omega)]
      exact Nat.lt_succ_of_le h1
    rw [List.singleton_append, lossy_of_lt hlt, toNat_octet (by omega)]
  split
  · next h1 h2 =>
    rw [lossy_two (by omega) (by omega) (by omega)]
    congr 2
    omega
  split
  · next h1 h2 h3 =>
    rw [lossy_three (by omega) (by omega) (by omega) (by omega) (by omega)]
    congr 2
    omega
  · next h1 h2 h3 =>
    rw [lossy_four (by omega) (by omega) (by omega) (by omega) (by omega) (by omega)]
    congr 2
    omega

theorem lossy_encode (cs : List Char) : lossy (encode cs) = cs := by
  induction cs with
  | nil => rw [encode, List.flatMap_nil, lossy]
  | cons c cs ih =>
      rw [encode, List.flatMap_cons, lossy_utf8EncodeChar]
      exact congrArg (c :: ·) ih

theorem lossyString_ofString (s : String) : lossyString (ofString s) = s := by
  rw [lossyString, ofString, lossy_encode, String.ofList_toList]

/-- Text of ASCII only is its code points. -/
theorem lossyString_ascii {s : String} (h : ∀ c ∈ s.toList, c.toNat < 128) :
    lossyString (ascii s) = s := by
  have hlossy : ∀ cs : List Char, (∀ c ∈ cs, c.toNat < 128) →
      lossy (cs.map fun c => UInt8.ofNat c.toNat) = cs := by
    intro cs hcs
    induction cs with
    | nil => rw [List.map_nil, lossy]
    | cons c cs ih =>
        obtain ⟨hc, hcs⟩ := List.forall_mem_cons.mp hcs
        have hoctet : (UInt8.ofNat c.toNat).toNat = c.toNat := toNat_octet (by omega)
        have hlead : UInt8.ofNat c.toNat < 0x80 := by
          rw [UInt8.lt_iff_toNat_lt, hoctet]
          exact hc
        rw [List.map_cons, lossy_of_lt hlead, hoctet, Char.ofNat_toNat, ih hcs]
  rw [lossyString, ascii, hlossy _ h, String.ofList_toList]

/-- Octets that are the writing of a text. -/
def Valid (bs : Bytes) : Prop := ∃ s : String, ofString s = bs

/-- Nothing is lost just where there was a text. -/
theorem ofString_lossyString_iff (bs : Bytes) : ofString (lossyString bs) = bs ↔ Valid bs := by
  constructor
  · exact fun h => ⟨_, h⟩
  · rintro ⟨s, rfl⟩
    rw [lossyString_ofString]

end PeerTracker.Utf8
