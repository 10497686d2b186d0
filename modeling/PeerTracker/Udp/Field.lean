import PeerTracker.Bytes.BigEndian

/-!
# Fields of a datagram

Signed words in network order, written by value and read at an offset.
-/

namespace PeerTracker.Udp

def int32 (x : Int32) : Bytes := BigEndian.encode 4 x.toUInt32.toNat

def int64 (x : Int64) : Bytes := BigEndian.encode 8 x.toUInt64.toNat

/-- `size` octets from `offset` on, fewer where the datagram ends. -/
def slice (bs : Bytes) (offset size : Nat) : Bytes := (bs.drop offset).take size

def int32At (bs : Bytes) (offset : Nat) : Int32 :=
  (UInt32.ofNat (BigEndian.decode (slice bs offset 4))).toInt32

def int64At (bs : Bytes) (offset : Nat) : Int64 :=
  (UInt64.ofNat (BigEndian.decode (slice bs offset 8))).toInt64

def word16At (bs : Bytes) (offset : Nat) : UInt16 :=
  UInt16.ofNat (BigEndian.decode (slice bs offset 2))

def word32At (bs : Bytes) (offset : Nat) : UInt32 :=
  UInt32.ofNat (BigEndian.decode (slice bs offset 4))

@[simp] theorem length_int32 (x : Int32) : (int32 x).length = 4 := by simp [int32]

@[simp] theorem length_int64 (x : Int64) : (int64 x).length = 8 := by simp [int64]

theorem length_slice (bs : Bytes) (offset size : Nat) :
    (slice bs offset size).length = min size (bs.length - offset) := by
  simp [slice]

/-- A field that stands in front is read at its own width. -/
theorem slice_head {field : Bytes} {size : Nat} (h : field.length = size) (back : Bytes) :
    slice (field ++ back) 0 size = field := by
  rw [slice, List.drop_zero, List.take_left' h]

/-- Past a field of `width` octets, offsets count on from its end. -/
theorem slice_skip {front : Bytes} {width : Nat} (h : front.length = width) (back : Bytes)
    (offset size : Nat) : slice (front ++ back) (offset + width) size = slice back offset size := by
  rw [slice, slice, ← h, Nat.add_comm, List.drop_length_add_append]

/-- A slice goes on where another begins at its end. -/
theorem slice_append_slice (bs : Bytes) {offset m next : Nat} (h : offset + m = next) (n : Nat) :
    slice bs offset m ++ slice bs next n = slice bs offset (m + n) := by
  rw [← h]
  simp only [slice, List.take_add, List.drop_drop]

theorem slice_append_slice_append (bs : Bytes) {offset m next : Nat} (h : offset + m = next)
    (n : Nat) (rest : Bytes) :
    slice bs offset m ++ (slice bs next n ++ rest) = slice bs offset (m + n) ++ rest := by
  rw [← List.append_assoc, slice_append_slice bs h]

theorem slice_append_drop (bs : Bytes) {offset m next : Nat} (h : offset + m = next) :
    slice bs offset m ++ bs.drop next = bs.drop offset := by
  rw [← h, ← List.drop_drop, slice, List.take_append_drop]

/-! ## Reading what was written -/

section OfSlice

variable {bs : Bytes} {offset : Nat}

theorem int32At_of_slice {x : Int32} (h : slice bs offset 4 = int32 x) : int32At bs offset = x := by
  have hlt : x.toUInt32.toNat < BigEndian.span 4 := x.toUInt32.toNat_lt
  rw [int32At, h, int32, BigEndian.decode_encode, Nat.mod_eq_of_lt hlt, UInt32.ofNat_toNat]
  exact x.toInt32_toUInt32

theorem int64At_of_slice {x : Int64} (h : slice bs offset 8 = int64 x) : int64At bs offset = x := by
  have hlt : x.toUInt64.toNat < BigEndian.span 8 := x.toUInt64.toNat_lt
  rw [int64At, h, int64, BigEndian.decode_encode, Nat.mod_eq_of_lt hlt, UInt64.ofNat_toNat]
  exact x.toInt64_toUInt64

theorem word16At_of_slice {x : UInt16} (h : slice bs offset 2 = BigEndian.encode 2 x.toNat) :
    word16At bs offset = x := by
  have hlt : x.toNat < BigEndian.span 2 := x.toNat_lt
  rw [word16At, h, BigEndian.decode_encode, Nat.mod_eq_of_lt hlt, UInt16.ofNat_toNat]

theorem word32At_of_slice {x : UInt32} (h : slice bs offset 4 = BigEndian.encode 4 x.toNat) :
    word32At bs offset = x := by
  have hlt : x.toNat < BigEndian.span 4 := x.toNat_lt
  rw [word32At, h, BigEndian.decode_encode, Nat.mod_eq_of_lt hlt, UInt32.ofNat_toNat]

end OfSlice

theorem int32_inj {x y : Int32} : int32 x = int32 y ↔ x = y := by
  constructor
  · intro h
    have hx : int32At (int32 x) 0 = x := int32At_of_slice (List.take_of_length_le (by simp))
    have hy : int32At (int32 y) 0 = y := int32At_of_slice (List.take_of_length_le (by simp))
    rw [← hx, h, hy]
  · exact congrArg int32

/-! ## Writing what was read

Of a field that is whole, this gives its octets. -/

section Whole

variable {bs : Bytes} {offset : Nat}

theorem decode_slice_lt {size : Nat} (h : offset + size ≤ bs.length) :
    BigEndian.decode (slice bs offset size) < BigEndian.span size := by
  have hlt := BigEndian.decode_lt (slice bs offset size)
  rwa [length_slice, Nat.min_eq_left (by omega)] at hlt

theorem encode_decode_slice {size : Nat} (h : offset + size ≤ bs.length) :
    BigEndian.encode size (BigEndian.decode (slice bs offset size)) = slice bs offset size := by
  have hencode := BigEndian.encode_decode (slice bs offset size)
  rwa [length_slice, Nat.min_eq_left (by omega)] at hencode

theorem int32_int32At (h : offset + 4 ≤ bs.length) :
    int32 (int32At bs offset) = slice bs offset 4 := by
  have hword : (int32At bs offset).toUInt32.toNat = BigEndian.decode (slice bs offset 4) := by
    rw [int32At, UInt32.toUInt32_toInt32, UInt32.toNat_ofNat']
    exact Nat.mod_eq_of_lt (decode_slice_lt h)
  rw [int32, hword, encode_decode_slice h]

theorem int64_int64At (h : offset + 8 ≤ bs.length) :
    int64 (int64At bs offset) = slice bs offset 8 := by
  have hword : (int64At bs offset).toUInt64.toNat = BigEndian.decode (slice bs offset 8) := by
    rw [int64At, UInt64.toUInt64_toInt64, UInt64.toNat_ofNat']
    exact Nat.mod_eq_of_lt (decode_slice_lt h)
  rw [int64, hword, encode_decode_slice h]

theorem encode_word16At (h : offset + 2 ≤ bs.length) :
    BigEndian.encode 2 (word16At bs offset).toNat = slice bs offset 2 := by
  have hword : (word16At bs offset).toNat = BigEndian.decode (slice bs offset 2) := by
    rw [word16At, UInt16.toNat_ofNat']
    exact Nat.mod_eq_of_lt (decode_slice_lt h)
  rw [hword, encode_decode_slice h]

theorem encode_word32At (h : offset + 4 ≤ bs.length) :
    BigEndian.encode 4 (word32At bs offset).toNat = slice bs offset 4 := by
  have hword : (word32At bs offset).toNat = BigEndian.decode (slice bs offset 4) := by
    rw [word32At, UInt32.toNat_ofNat']
    exact Nat.mod_eq_of_lt (decode_slice_lt h)
  rw [hword, encode_decode_slice h]

/-- What a whole field is read as tells its octets. -/
theorem int32At_eq_iff (h : offset + 4 ≤ bs.length) (x : Int32) :
    int32At bs offset = x ↔ slice bs offset 4 = int32 x := by
  constructor
  · rintro rfl
    exact (int32_int32At h).symm
  · exact int32At_of_slice

theorem int64At_eq_iff (h : offset + 8 ≤ bs.length) (x : Int64) :
    int64At bs offset = x ↔ slice bs offset 8 = int64 x := by
  constructor
  · rintro rfl
    exact (int64_int64At h).symm
  · exact int64At_of_slice

end Whole

end PeerTracker.Udp
