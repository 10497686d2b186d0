import Mathlib.Algebra.Group.Int.Defs
import Mathlib.Algebra.GroupWithZero.Nat
import PeerTracker.Snapshot.Record

/-!
# Snapshots as octets

Reading a value that was written leaves the octets that follow it. `MessagePack.Reads` says
so of one value, and there is one lemma for each kind of value that a snapshot is made of;
those for containers ask the same of the parts, one level down. What a snapshot writes is
what it reads (`Snapshot.decode_encode`) when the two formats give back what they were
given (`Snapshot.Faithful`), and that is when four octets can tell its length
(`Snapshot.faithful_iff`).
-/

namespace PeerTracker

namespace MessagePack

/-! ## Numbers in front -/

theorem takeOctets_append (bs rest : Bytes) :
    takeOctets bs.length (bs ++ rest) = some (bs, rest) := by
  simp [takeOctets]

theorem takeNat_encode {w n : Nat} (h : n < BigEndian.span w) (rest : Bytes) :
    takeNat w (BigEndian.encode w n ++ rest) = some (n, rest) := by
  have htake := takeOctets_append (BigEndian.encode w n) rest
  rw [BigEndian.length_encode] at htake
  rw [takeNat, htake, Option.map_some, BigEndian.decode_encode, Nat.mod_eq_of_lt h]

theorem sized_encode {w n : Nat} (h : n < BigEndian.span w) (head : Nat → Head) (rest : Bytes) :
    sized w head (BigEndian.encode w n ++ rest) = some (head n, rest) := by
  rw [sized, takeNat_encode h, Option.map_some]

/-! ## Heads -/

theorem readHead_strHeader {n : Nat} (h : n < 2 ^ 32) (rest : Bytes) :
    readHead (strHeader n ++ rest) = some (.str n, rest) := by
  unfold strHeader
  by_cases hfix : n < 0x20
  · have hbyte : (UInt8.ofNat (0xA0 + n)).toNat = 0xA0 + n :=
      UInt8.toNat_ofNat_of_lt' (by show _ < 256; omega)
    rw [if_pos hfix, List.singleton_append, readHead, hbyte, if_neg (by omega), if_neg (by omega),
      if_neg (by omega), if_pos (by omega), Nat.add_sub_cancel_left]
  · rw [if_neg hfix]
    split
    · next hone => exact sized_encode (w := 1) hone .str rest
    · split
      · next htwo => exact sized_encode (w := 2) htwo .str rest
      · exact sized_encode (w := 4) h .str rest

theorem readHead_arrayHeader {n : Nat} (h : n < 2 ^ 32) (rest : Bytes) :
    readHead (arrayHeader n ++ rest) = some (.array n, rest) := by
  unfold arrayHeader
  by_cases hfix : n < 0x10
  · have hbyte : (UInt8.ofNat (0x90 + n)).toNat = 0x90 + n :=
      UInt8.toNat_ofNat_of_lt' (by show _ < 256; omega)
    rw [if_pos hfix, List.singleton_append, readHead, hbyte, if_neg (by omega), if_neg (by omega),
      if_pos (by omega), Nat.add_sub_cancel_left]
  · rw [if_neg hfix]
    split
    · next htwo => exact sized_encode (w := 2) htwo .array rest
    · exact sized_encode (w := 4) h .array rest

theorem readHead_mapHeader {n : Nat} (h : n < 2 ^ 32) (rest : Bytes) :
    readHead (mapHeader n ++ rest) = some (.map n, rest) := by
  unfold mapHeader
  by_cases hfix : n < 0x10
  · have hbyte : (UInt8.ofNat (0x80 + n)).toNat = 0x80 + n :=
      UInt8.toNat_ofNat_of_lt' (by show _ < 256; omega)
    rw [if_pos hfix, List.singleton_append, readHead, hbyte, if_neg (by omega), if_pos (by omega),
      Nat.add_sub_cancel_left]
  · rw [if_neg hfix]
    split
    · next htwo => exact sized_encode (w := 2) htwo .map rest
    · exact sized_encode (w := 4) h .map rest

/-! ## Values -/

/-- Containers may nest `depth` deep for the value to be read back from what is written. -/
def Reads (depth : Nat) (v : MessagePack) : Prop :=
  ∀ rest, read depth (v.encode ++ rest) = some (v, rest)

/-- What reads the parts of a container. -/
def reader : (depth : Nat) → Bytes → Option (MessagePack × Bytes)
  | 0 => fun _ => none
  | depth + 1 => read depth

theorem read_eq (depth : Nat) (bs : Bytes) :
    read depth bs = (readHead bs).bind fun x => readBody (reader depth) x.1 x.2 := by
  cases depth <;> rfl

/-- A value is read back if its head is, and its body behind the head. -/
theorem reads_of_head {depth : Nat} {v : MessagePack} (head : Head) (body : Bytes)
    (hhead : ∀ rest, readHead (v.encode ++ rest) = some (head, body ++ rest))
    (hbody : ∀ rest, readBody (reader depth) head (body ++ rest) = some (v, rest)) :
    v.Reads depth := by
  intro rest
  rw [read_eq, hhead, Option.bind_some, hbody]

theorem reads_bool (depth : Nat) (b : Bool) : (bool b).Reads depth := by
  refine reads_of_head (.value (.bool b)) [] (fun rest => ?_) fun _ => rfl
  cases b <;> rfl

theorem reads_str (depth : Nat) {octets : Bytes} (h : octets.length < 2 ^ 32) :
    (str octets).Reads depth := by
  refine reads_of_head (.str octets.length) octets ?_ ?_
  · intro rest
    rw [encode, List.append_assoc]
    exact readHead_strHeader h _
  · intro rest
    rw [readBody, takeOctets_append, Option.map_some]

theorem reads_nat (depth : Nat) {n : Nat} (h : n < 2 ^ 64) : (int (.ofNat n)).Reads depth := by
  -- beyond the small numbers the marker tells how many octets follow
  have hwide : ∀ (marker : UInt8) (w : Nat), n < BigEndian.span w →
      (∀ bs, readHead (marker :: bs) = some (.natural w, bs)) →
      (int (.ofNat n)).encode = marked marker w n → (int (.ofNat n)).Reads depth := by
    intro marker w hw hmarker hencode
    refine reads_of_head (.natural w) (BigEndian.encode w n) ?_ ?_
    · intro rest
      rw [hencode]
      exact hmarker _
    · intro rest
      rw [readBody, takeNat_encode hw]
      rfl
  by_cases hfix : n < 0x80
  · have hbyte : (UInt8.ofNat n).toNat = n := UInt8.toNat_ofNat_of_lt' (by show _ < 256; omega)
    refine reads_of_head (.value (.int n)) [] ?_ fun _ => rfl
    intro rest
    rw [encode, encodeInt, encodeNat, if_pos hfix, List.singleton_append, readHead, hbyte,
      if_pos hfix]
    rfl
  · by_cases hone : n < 0x100
    · refine hwide 0xCC 1 hone (fun _ => rfl) ?_
      rw [encode, encodeInt, encodeNat, if_neg hfix, if_pos hone]
    · by_cases htwo : n < 0x10000
      · refine hwide 0xCD 2 htwo (fun _ => rfl) ?_
        rw [encode, encodeInt, encodeNat, if_neg hfix, if_neg hone, if_pos htwo]
      · by_cases hfour : n < 0x100000000
        · refine hwide 0xCE 4 hfour (fun _ => rfl) ?_
          rw [encode, encodeInt, encodeNat, if_neg hfix, if_neg hone, if_neg htwo, if_pos hfour]
        · refine hwide 0xCF 8 h (fun _ => rfl) ?_
          rw [encode, encodeInt, encodeNat, if_neg hfix, if_neg hone, if_neg htwo, if_neg hfour]

theorem signed_complement {w n half : Nat} (hspan : BigEndian.span w = 2 * half) (h : n < half) :
    signed w (2 * half - 1 - n) = .negSucc n := by
  rw [signed, hspan, if_neg (by omega)]
  omega

theorem reads_negative (depth : Nat) {n : Nat} (h : n < 2 ^ 63) :
    (int (.negSucc n)).Reads depth := by
  have hwide : ∀ (marker : UInt8) (w half : Nat), BigEndian.span w = 2 * half → n < half →
      (∀ bs, readHead (marker :: bs) = some (.integer w, bs)) →
      (int (.negSucc n)).encode = marked marker w (2 * half - 1 - n) →
      (int (.negSucc n)).Reads depth := by
    intro marker w half hspan hn hmarker hencode
    refine reads_of_head (.integer w) (BigEndian.encode w (2 * half - 1 - n)) ?_ ?_
    · intro rest
      rw [hencode]
      exact hmarker _
    · intro rest
      rw [readBody, takeNat_encode (by omega), Option.map_some, signed_complement hspan hn]
  by_cases hfix : n < 0x20
  · have hbyte : (UInt8.ofNat (0x100 - 1 - n)).toNat = 0x100 - 1 - n :=
      UInt8.toNat_ofNat_of_lt' (by show _ < 256; omega)
    have hvalue : ((0x100 - 1 - n : Nat) : Int) - 0x100 = .negSucc n := by omega
    refine reads_of_head (.value (.int (.negSucc n))) [] ?_ fun _ => rfl
    intro rest
    rw [encode, encodeInt, encodeNegative, if_pos hfix, List.singleton_append, readHead, hbyte,
      if_neg (by omega), if_neg (by omega), if_neg (by omega), if_neg (by omega),
      if_pos (by omega), hvalue]
    rfl
  · by_cases hone : n < 0x80
    · refine hwide 0xD0 1 0x80 rfl hone (fun _ => rfl) ?_
      rw [encode, encodeInt, encodeNegative, if_neg hfix, if_pos hone]
    · by_cases htwo : n < 0x8000
      · refine hwide 0xD1 2 0x8000 rfl htwo (fun _ => rfl) ?_
        rw [encode, encodeInt, encodeNegative, if_neg hfix, if_neg hone, if_pos htwo]
      · by_cases hfour : n < 0x80000000
        · refine hwide 0xD2 4 0x80000000 rfl hfour (fun _ => rfl) ?_
          rw [encode, encodeInt, encodeNegative, if_neg hfix, if_neg hone, if_neg htwo,
            if_pos hfour]
        · refine hwide 0xD3 8 0x8000000000000000 rfl h (fun _ => rfl) ?_
          rw [encode, encodeInt, encodeNegative, if_neg hfix, if_neg hone, if_neg htwo,
            if_neg hfour]

theorem reads_int (depth : Nat) {i : Int} (hlow : -2 ^ 63 ≤ i) (hhigh : i < 2 ^ 64) :
    (int i).Reads depth := by
  cases i with
  | ofNat n =>
      have hn : (n : Int) < 2 ^ 64 := hhigh
      exact reads_nat depth (by omega)
  | negSucc n => exact reads_negative depth (by omega)

theorem readItems_encodeItems {read : Bytes → Option (MessagePack × Bytes)}
    {items : List MessagePack}
    (h : ∀ v ∈ items, ∀ rest, read (v.encode ++ rest) = some (v, rest)) (rest : Bytes) :
    readItems read items.length (encodeItems items ++ rest) = some (items, rest) := by
  induction items with
  | nil => rfl
  | cons v items ih =>
      have hitems := ih fun x hx => h x (List.mem_cons_of_mem _ hx)
      rw [encodeItems, List.append_assoc, List.length_cons, readItems, h v List.mem_cons_self]
      simp [hitems]

theorem readEntries_encodeEntries {read : Bytes → Option (MessagePack × Bytes)}
    {entries : List (MessagePack × MessagePack)}
    (h : ∀ e ∈ entries, ∀ rest, read (e.1.encode ++ rest) = some (e.1, rest) ∧
      read (e.2.encode ++ rest) = some (e.2, rest)) (rest : Bytes) :
    readEntries read entries.length (encodeEntries entries ++ rest) = some (entries, rest) := by
  induction entries with
  | nil => rfl
  | cons e entries ih =>
      have hentries := ih fun x hx => h x (List.mem_cons_of_mem _ hx)
      have he := h e List.mem_cons_self
      rw [encodeEntries, List.append_assoc, List.append_assoc, List.length_cons, readEntries,
        (he _).1]
      simp [(he _).2, hentries]

theorem reads_array {depth : Nat} {items : List MessagePack} (hlength : items.length < 2 ^ 32)
    (h : ∀ v ∈ items, v.Reads depth) : (array items).Reads (depth + 1) := by
  refine reads_of_head (.array items.length) (encodeItems items) ?_ ?_
  · intro rest
    rw [encode, List.append_assoc]
    exact readHead_arrayHeader hlength _
  · intro rest
    rw [readBody, reader, readItems_encodeItems h, Option.map_some]

theorem reads_map {depth : Nat} {entries : List (MessagePack × MessagePack)}
    (hlength : entries.length < 2 ^ 32) (h : ∀ e ∈ entries, e.1.Reads depth ∧ e.2.Reads depth) :
    (map entries).Reads (depth + 1) := by
  refine reads_of_head (.map entries.length) (encodeEntries entries) ?_ ?_
  · intro rest
    rw [encode, List.append_assoc]
    exact readHead_mapHeader hlength _
  · intro rest
    rw [readBody, reader,
      readEntries_encodeEntries (fun e he rest => ⟨(h e he).1 rest, (h e he).2 rest⟩),
      Option.map_some]

theorem decode_encode {v : MessagePack} (h : v.Reads depthLimit) : decode v.encode = some v := by
  have hread := h []
  rw [List.append_nil] at hread
  rw [decode, hread, Option.map_some]

/-! ## Lengths -/

theorem encode_array_ne_nil (items : List MessagePack) : (array items).encode ≠ [] := by
  rw [encode, arrayHeader]
  split
  · simp
  · split <;> simp [marked]

theorem length_le_encodeItems {items : List MessagePack} (h : ∀ v ∈ items, v.encode ≠ []) :
    items.length ≤ (encodeItems items).length := by
  induction items with
  | nil => exact Nat.le_refl _
  | cons v items ih =>
      have hv := List.length_pos_iff.mpr (h v List.mem_cons_self)
      have hitems := ih fun x hx => h x (List.mem_cons_of_mem _ hx)
      rw [encodeItems, List.length_append, List.length_cons]
      omega

theorem length_le_of_mem {v : MessagePack} {items : List MessagePack} (h : v ∈ items) :
    v.encode.length ≤ (array items).encode.length := by
  have hitems : v.encode.length ≤ (encodeItems items).length := by
    induction items with
    | nil => cases h
    | cons x items ih =>
        rw [encodeItems, List.length_append]
        rcases List.mem_cons.mp h with rfl | hmem
        · exact Nat.le_add_right _ _
        · exact Nat.le_trans (ih hmem) (Nat.le_add_left _ _)
  rw [encode, List.length_append]
  exact Nat.le_trans hitems (Nat.le_add_left _ _)

/-- There are no more arrays in an array than there are octets. -/
theorem length_le_of_arrays {α : Type} (f : α → List MessagePack) (xs : List α) :
    xs.length ≤ (array (xs.map fun x => array (f x))).encode.length := by
  have hfull : ∀ v ∈ xs.map fun x => array (f x), v.encode ≠ [] := by
    intro v hv
    obtain ⟨x, -, rfl⟩ := List.mem_map.mp hv
    exact encode_array_ne_nil _
  have hitems := length_le_encodeItems hfull
  rw [List.length_map] at hitems
  rw [encode, List.length_append]
  omega

end MessagePack

/-! ## Compression -/

namespace Lz4

theorem readExtra_extraLength (n : Nat) (rest : Bytes) :
    readExtra (extraLength n ++ rest) = .ok (n, rest) := by
  induction n using Nat.strongRecOn with
  | ind n ih =>
      rw [extraLength]
      by_cases h : n < 255
      · have hbyte : (UInt8.ofNat n).toNat = n :=
          UInt8.toNat_ofNat_of_lt' (by show _ < 256; omega)
        have hlast : UInt8.ofNat n ≠ 255 := by
          intro e
          have := congrArg UInt8.toNat e
          rw [hbyte] at this
          exact absurd this (by show ¬n = 255; omega)
        rw [if_pos h, List.singleton_append, readExtra, if_neg hlast, hbyte]
      · rw [if_neg h, List.cons_append, readExtra, if_pos rfl, ih (n - 255) (by omega)]
        show Except.ok (255 + (n - 255), rest) = _
        rw [Nat.add_sub_cancel' (by omega)]

/-- A row of literals up to the end of the block. -/
theorem sequences_literals {limit fuel : Nat} {token : UInt8} {bs row : Bytes}
    (hlength : readLength (token.toNat / 16) row = .ok (bs.length, bs)) :
    sequences limit (fuel + 1) [] (token :: row) =
      if bs.length ≤ limit then .ok bs else .error .outputTooLarge := by
  have hcopy : copyLiterals limit (token.toNat / 16) [] row =
      if bs.length ≤ limit then .ok (bs.reverse, []) else .error .outputTooLarge := by
    simp only [copyLiterals, hlength, Bind.bind, Except.bind]
    rw [if_neg (Nat.lt_irrefl _), List.length_nil, Nat.zero_add]
    by_cases h : bs.length ≤ limit
    · rw [if_neg (Nat.not_lt.mpr h), if_pos h]
      simp [Pure.pure, Except.pure]
    · rw [if_pos (Nat.not_le.mp h), if_neg h]
      rfl
  rw [sequences, hcopy]
  split <;> simp [Bind.bind, Except.bind, Pure.pure, Except.pure]

theorem decompressBlock_compressBlock (limit : Nat) (bs : Bytes) :
    decompressBlock limit (compressBlock bs) =
      if bs.length ≤ limit then .ok bs else .error .outputTooLarge := by
  unfold decompressBlock compressBlock
  by_cases hshort : bs.length < 15
  · have hnibble : (UInt8.ofNat (16 * bs.length)).toNat / 16 = bs.length := by
      rw [UInt8.toNat_ofNat_of_lt' (by show _ < 256; omega)]
      omega
    rw [if_pos hshort]
    refine sequences_literals ?_
    rw [hnibble, readLength, if_neg (by omega)]
  · rw [if_neg hshort]
    have hlength : readLength 15 (extraLength (bs.length - 15) ++ bs) = .ok (bs.length, bs) := by
      rw [readLength, if_pos rfl, readExtra_extraLength]
      show Except.ok (15 + (bs.length - 15), bs) = _
      rw [Nat.add_sub_cancel' (by omega)]
    exact sequences_literals hlength

/-- The size in front has four octets, and what is longer does not come back. -/
theorem decompress_compress (bs : Bytes) :
    decompress (compress bs) = if bs.length < 2 ^ 32 then .ok bs else .error .outputTooLarge := by
  have hsize : ((BigEndian.encode 4 bs.length).reverse).length = 4 := by simp
  have hdecode : BigEndian.decode (BigEndian.encode 4 bs.length) = bs.length % 2 ^ 32 :=
    BigEndian.decode_encode 4 bs.length
  have hlong : ¬(compress bs).length < 4 := by
    rw [compress, List.length_append, hsize]
    omega
  rw [decompress, if_neg hlong, compress, List.take_left' hsize, List.drop_left' hsize,
    List.reverse_reverse, hdecode, decompressBlock_compressBlock]
  by_cases h : bs.length < 2 ^ 32
  · rw [if_pos h, if_pos (Nat.le_of_eq (Nat.mod_eq_of_lt h).symm)]
  · have hmod := Nat.mod_lt bs.length (y := 2 ^ 32) (by decide)
    rw [if_neg h, if_neg (by omega)]

end Lz4

/-! ## Fields -/

namespace Hex

theorem digit?_digitChar {n : Nat} (h : n < 16) :
    digit? (UInt8.ofNat (digitChar n).toNat) = some n := by
  have hall : ∀ n < 16, digit? (UInt8.ofNat (digitChar n).toNat) = some n := by decide
  exact hall n h

theorem ascii_encodeString (bs : Bytes) :
    ascii (encodeString bs) = bs.flatMap fun b =>
      [UInt8.ofNat (digitChar (b.toNat / 16)).toNat, UInt8.ofNat (digitChar (b.toNat % 16)).toNat] := by
  rw [ascii, encodeString, String.toList_ofList, encode, List.map_flatMap]
  rfl

theorem pairs_ascii_encodeString (bs : Bytes) (position : Nat) :
    pairs position (ascii (encodeString bs)) = .ok bs := by
  rw [ascii_encodeString]
  induction bs generalizing position with
  | nil => rfl
  | cons b bs ih =>
      have hb := b.toNat_lt
      have hoctet : UInt8.ofNat (16 * (b.toNat / 16) + b.toNat % 16) = b := by
        rw [Nat.div_add_mod, UInt8.ofNat_toNat]
      simp only [List.flatMap_cons, List.cons_append, List.nil_append, pairs,
        digit?_digitChar (n := b.toNat / 16) (by omega),
        digit?_digitChar (n := b.toNat % 16) (by omega), ih, hoctet]
      rfl

theorem length_ascii_encodeString (bs : Bytes) :
    (ascii (encodeString bs)).length = 2 * bs.length := by
  rw [ascii_encodeString]
  induction bs with
  | nil => rfl
  | cons b bs ih =>
      rw [List.flatMap_cons, List.length_append, ih]
      show 2 + 2 * bs.length = 2 * (bs.length + 1)
      omega

theorem decode_ascii_encodeString (bs : Bytes) :
    decode bs.length (ascii (encodeString bs)) = .ok bs := by
  rw [decode, length_ascii_encodeString, if_neg (by omega), if_neg (fun h => h rfl),
    pairs_ascii_encodeString]

end Hex

namespace Snapshot

open MessagePack (Reads)

theorem identifier?_identifierValue (i : Identifier) : identifier? (identifierValue i) = some i := by
  have hhex := Hex.decode_ascii_encodeString i.bytes
  rw [i.length_eq] at hhex
  show (Hex.decode 20 (ascii (Hex.encodeString i.bytes))).toOption.bind _ = _
  rw [hhex]
  exact i.ofBytes?_bytes

theorem mapM_map_eq_some {α β γ : Type} {f : α → β} {g : β → Option γ} {k : α → γ}
    (h : ∀ a, g (f a) = some (k a)) (as : List α) : (as.map f).mapM g = some (as.map k) := by
  induction as with
  | nil => rfl
  | cons a as ih =>
      rw [List.map_cons, List.mapM_cons, h, ih]
      rfl

theorem natBelow?_natCast {bound n : Nat} (h : n < bound) : natBelow? bound (.int n) = some n := by
  rw [natBelow?, if_pos ⟨Int.natCast_nonneg _, Int.ofNat_lt.mpr h⟩]
  rfl

theorem int64?_toInt (x : Int64) : int64? (.int x.toInt) = some x := by
  rw [int64?, if_pos ⟨x.le_toInt, x.toInt_le⟩, Int64.ofInt_toInt]

/-- Octets are written as an array of numbers. -/
theorem octets?_ints (bs : Bytes) :
    octets? bs.length (.array (bs.map fun b => .int b.toNat)) = some bs := by
  have hnats : (bs.map fun b => MessagePack.int b.toNat).mapM (natBelow? 256) =
      some (bs.map UInt8.toNat) := mapM_map_eq_some (fun b => natBelow?_natCast b.toNat_lt) bs
  rw [octets?, List.length_map, if_pos rfl, hnats, Option.map_some, List.map_map]
  simp [Function.comp_def]

theorem groups_octets (gs : List UInt16) :
    groups (gs.flatMap fun g => BigEndian.encode 2 g.toNat) = gs := by
  induction gs with
  | nil => rfl
  | cons g gs ih =>
      have hg := g.toNat_lt
      have hgroup : UInt16.ofNat
          ((UInt8.ofNat (g.toNat / 256)).toNat * 256 + (UInt8.ofNat g.toNat).toNat) = g := by
        rw [UInt8.toNat_ofNat', UInt8.toNat_ofNat',
          show g.toNat / 256 % 2 ^ 8 * 256 + g.toNat % 2 ^ 8 = g.toNat by omega,
          UInt16.ofNat_toNat]
      rw [List.flatMap_cons]
      show groups (UInt8.ofNat (g.toNat / 256) :: UInt8.ofNat g.toNat :: _) = _
      rw [groups, hgroup]
      exact congrArg (g :: ·) ih

theorem ip?_ipValue (ip : Net.IpAddr) : ip? (ipValue ip) = some ip := by
  cases ip with
  | v4 x =>
      have hoctets : octets? 4 (.array (x.octets.map fun b => .int b.toNat)) = some x.octets :=
        octets?_ints x.octets
      have hname : names 0 "V4" (.str (ascii "V4")) = true := rfl
      simp only [ipValue, Net.IpAddr.isV4, Net.IpAddr.octets, if_true, ip?, hname, hoctets,
        Option.bind_some, Net.Ipv4.ofOctets?_octets, Option.map_some]
  | v6 x =>
      have hlength : x.octets.length = 16 := by simp [Net.Ipv6.octets, Net.Ipv6.groups]
      have hoctets := octets?_ints x.octets
      rw [hlength] at hoctets
      have hgroups : groups x.octets = x.groups := groups_octets x.groups
      have hother : names 0 "V4" (.str (ascii "V6")) = false := rfl
      have hname : names 1 "V6" (.str (ascii "V6")) = true := rfl
      simp only [ipValue, Net.IpAddr.isV4, Net.IpAddr.octets, Bool.false_eq_true, if_false,
        if_true, ip?, hother, hname, hoctets, hgroups, Option.bind_some,
        Net.Ipv6.ofGroups?_groups, Option.map_some]

theorem PeerRecord.ofValue?_value (r : PeerRecord) : ofValue? r.value = some r := by
  have hport : natBelow? UInt16.size (.int r.port.toNat) = some r.port.toNat :=
    natBelow?_natCast r.port.toNat_lt
  have huploaded : natBelow? UInt64.size (.int r.uploaded.toNat) = some r.uploaded.toNat :=
    natBelow?_natCast r.uploaded.toNat_lt
  have hdownloaded : natBelow? UInt64.size (.int r.downloaded.toNat) = some r.downloaded.toNat :=
    natBelow?_natCast r.downloaded.toNat_lt
  simp [ofValue?, value, fields?, identifier?_identifierValue, ip?_ipValue, hport, bool?,
    int64?_toInt, huploaded, hdownloaded]

theorem SwarmRecord.ofValue?_value (r : SwarmRecord) : ofValue? r.value = some r := by
  have hpeers := mapM_map_eq_some (k := id) PeerRecord.ofValue?_value r.peers
  have hproviders := mapM_map_eq_some (k := id) PeerRecord.ofValue?_value r.providers
  rw [List.map_id] at hpeers hproviders
  simp [ofValue?, value, fields?, items?, identifier?_identifierValue, hpeers, hproviders]

/-! ## Records -/

theorem reads_identifierValue (depth : Nat) (i : Identifier) : (identifierValue i).Reads depth := by
  apply MessagePack.reads_str
  rw [Identifier.toText, Hex.length_ascii_encodeString, i.length_eq]
  decide

theorem reads_ipValue (depth : Nat) (ip : Net.IpAddr) : (ipValue ip).Reads (depth + 2) := by
  have hoctets : (MessagePack.array (ip.octets.map fun b => .int b.toNat)).Reads (depth + 1) := by
    apply MessagePack.reads_array
    · rw [List.length_map, ip.length_octets]
      split <;> decide
    · intro v hv
      obtain ⟨b, -, rfl⟩ := List.mem_map.mp hv
      have hb := b.toNat_lt
      exact MessagePack.reads_int depth (by omega) (by omega)
  refine MessagePack.reads_map (by simp) ?_
  intro e he
  rw [List.mem_singleton] at he
  subst he
  refine ⟨MessagePack.reads_str _ ?_, hoctets⟩
  split <;> decide

theorem PeerRecord.reads_value (depth : Nat) (r : PeerRecord) : r.value.Reads (depth + 3) := by
  have hport := r.port.toNat_lt
  have hlow := r.lastSeen.le_toInt
  have hhigh := r.lastSeen.toInt_lt
  have huploaded := r.uploaded.toNat_lt
  have hdownloaded := r.downloaded.toNat_lt
  refine MessagePack.reads_array (by simp) ?_
  intro v hv
  simp only [List.mem_cons, List.not_mem_nil, or_false] at hv
  rcases hv with rfl | rfl | rfl | rfl | rfl | rfl | rfl
  · exact reads_identifierValue _ r.id
  · exact reads_ipValue depth r.ip
  · exact MessagePack.reads_int _ (by omega) (by omega)
  · exact MessagePack.reads_bool _ r.complete
  · exact MessagePack.reads_int _ hlow (by omega)
  · exact MessagePack.reads_int _ (by omega) (by omega)
  · exact MessagePack.reads_int _ (by omega) (by omega)

theorem SwarmRecord.reads_value (depth : Nat) {r : SwarmRecord} (hpeers : r.peers.length < 2 ^ 32)
    (hproviders : r.providers.length < 2 ^ 32) : r.value.Reads (depth + 5) := by
  have hlist : ∀ ps : List PeerRecord, ps.length < 2 ^ 32 →
      (MessagePack.array (ps.map PeerRecord.value)).Reads (depth + 4) := by
    intro ps hps
    refine MessagePack.reads_array (by rwa [List.length_map]) ?_
    intro v hv
    obtain ⟨p, -, rfl⟩ := List.mem_map.mp hv
    exact p.reads_value depth
  refine MessagePack.reads_array (by simp) ?_
  intro v hv
  simp only [List.mem_cons, List.not_mem_nil, or_false] at hv
  rcases hv with rfl | rfl | rfl
  · exact reads_identifierValue _ r.hash
  · exact hlist r.peers hpeers
  · exact hlist r.providers hproviders

/-- The peers and the providers of an entry are no more than its octets. -/
theorem SwarmRecord.length_le_value (r : SwarmRecord) :
    r.peers.length ≤ r.value.encode.length ∧ r.providers.length ≤ r.value.encode.length := by
  have hlist : ∀ ps : List PeerRecord, MessagePack.array (ps.map PeerRecord.value) ∈
      [identifierValue r.hash, .array (r.peers.map PeerRecord.value),
        .array (r.providers.map PeerRecord.value)] → ps.length ≤ r.value.encode.length :=
    fun ps hps => Nat.le_trans (MessagePack.length_le_of_arrays _ ps) (MessagePack.length_le_of_mem hps)
  exact ⟨hlist r.peers (by simp), hlist r.providers (by simp)⟩

/-! ## The whole snapshot -/

/-- Both formats give back what the snapshot hands to them. -/
structure Faithful (records : List SwarmRecord) : Prop where
  decompressed : Lz4.decompress (encode records) = .ok (pack records)
  unpacked : MessagePack.decode (pack records) = some (.array (records.map SwarmRecord.value))

/-- They do if and only if four octets can tell the length, as the size in front of a
compressed block has no more. -/
theorem faithful_iff {records : List SwarmRecord} :
    Faithful records ↔ (pack records).length < 2 ^ 32 := by
  have hcompress := Lz4.decompress_compress (pack records)
  constructor
  · intro h
    apply Decidable.by_contra
    intro hlong
    rw [if_neg hlong, ← encode, h.decompressed] at hcompress
    cases hcompress
  · intro h
    rw [if_pos h] at hcompress
    refine ⟨hcompress, ?_⟩
    have hrecords : records.length ≤ (pack records).length :=
      MessagePack.length_le_of_arrays _ records
    have hreads : (MessagePack.array (records.map SwarmRecord.value)).Reads (1018 + 5 + 1) := by
      refine MessagePack.reads_array ?_ ?_
      · rw [List.length_map]
        omega
      · intro v hv
        obtain ⟨r, -, rfl⟩ := List.mem_map.mp hv
        have hvalue : r.value.encode.length ≤ (pack records).length :=
          MessagePack.length_le_of_mem hv
        have hparts := r.length_le_value
        exact SwarmRecord.reads_value 1018 (by omega) (by omega)
    exact MessagePack.decode_encode hreads

/-- A snapshot has no more peers than octets. -/
theorem sum_peers_le_pack (records : List SwarmRecord) :
    (records.map fun r => r.peers.length).sum ≤ (pack records).length := by
  have hitems : (records.map fun r => r.peers.length).sum ≤
      (MessagePack.encodeItems (records.map SwarmRecord.value)).length := by
    induction records with
    | nil => exact Nat.le_refl _
    | cons r records ih =>
        have hr := r.length_le_value.1
        rw [List.map_cons, List.sum_cons, List.map_cons, MessagePack.encodeItems,
          List.length_append]
        omega
  rw [pack, MessagePack.encode, List.length_append]
  omega

theorem decode_encode {records : List SwarmRecord} (h : Faithful records) :
    decode (encode records) = .ok records := by
  have hrecords := mapM_map_eq_some (k := id) SwarmRecord.ofValue?_value records
  rw [List.map_id] at hrecords
  have hunpack : unpack (pack records) = some records := by
    rw [unpack, h.unpacked]
    exact hrecords
  rw [decode, h.decompressed]
  simp only [hunpack]

end Snapshot

end PeerTracker
