import PeerTracker.Udp.Cursor

/-!
# Fields wherever they stand

What a record is written as is read back field by field, and no field needs to know where in
the datagram it stands: `Cursor.Reads` speaks of any octets in front and behind. Cursors that
read one after the other read what was written one after the other (`Reads.bind`).
-/

namespace PeerTracker.Udp.Cursor

variable {α β : Type}

/-- Wherever these octets stand, the cursor reads them as `x` and moves on behind them. -/
def Reads (c : Cursor α) (x : α) (octets : Bytes) : Prop :=
  ∀ front rest, c (front ++ (octets ++ rest)) front.length = some (x, front.length + octets.length)

/-- Octets that are found where they stand. -/
theorem slice_middle (front octets rest : Bytes) :
    slice (front ++ (octets ++ rest)) front.length octets.length = octets := by
  rw [slice, List.drop_left' rfl, List.take_left' rfl]

/-- What is left behind octets that were read. -/
theorem drop_behind (front octets rest : Bytes) :
    (front ++ (octets ++ rest)).drop (front.length + octets.length) = rest := by
  rw [List.drop_length_add_append, List.drop_left]

theorem Reads.pure (x : α) : (Pure.pure x : Cursor α).Reads x [] := fun _ _ => rfl

theorem Reads.bind {c : Cursor α} {next : α → Cursor β} {x : α} {y : β} {octets more : Bytes}
    (hc : c.Reads x octets) (hnext : (next x).Reads y more) :
    (c >>= next).Reads y (octets ++ more) := by
  intro front rest
  have hmore := hnext (front ++ octets) rest
  rw [List.length_append, List.append_assoc] at hmore
  rw [bind_run, List.append_assoc, hc front (more ++ rest), Option.bind_some, hmore,
    List.length_append, Nat.add_assoc]

/-- The last of the fields. -/
theorem Reads.bind_pure {c : Cursor α} {make : α → β} {x : α} {octets : Bytes}
    (hc : c.Reads x octets) : (c >>= fun x => Pure.pure (make x)).Reads (make x) octets := by
  have hbind : (c >>= fun x => Pure.pure (make x)).Reads (make x) (octets ++ []) :=
    hc.bind (Reads.pure (make x))
  rwa [List.append_nil] at hbind

/-- What is read of a datagram that begins so. -/
theorem Reads.start {c : Cursor α} {x : α} {octets : Bytes} (h : c.Reads x octets)
    (rest : Bytes) : c (octets ++ rest) 0 = some (x, octets.length) := by
  have hstart := h [] rest
  rwa [List.nil_append, List.length_nil, Nat.zero_add] at hstart

theorem reads_field {n : Nat} {read : Bytes → Nat → α} {x : α} {octets : Bytes}
    (hlength : octets.length = n) (h : ∀ {bs place}, slice bs place n = octets → read bs place = x) :
    (field n read).Reads x octets := by
  intro front rest
  have hslice := slice_middle front octets rest
  rw [hlength] at hslice
  rw [field_of_le (by simp [hlength]), h hslice, hlength]

theorem reads_whole {n : Nat} {value? : Bytes → Option α} {x : α} {octets : Bytes}
    (hlength : octets.length = n) (h : value? octets = some x) :
    (whole n value?).Reads x octets := by
  intro front rest
  have hslice := slice_middle front octets rest
  rw [hlength] at hslice
  rw [whole, hslice, h, hlength]
  rfl

theorem reads_int32 (x : Int32) : Cursor.int32.Reads x (Udp.int32 x) :=
  reads_field (length_int32 x) int32At_of_slice

theorem reads_int64 (x : Int64) : Cursor.int64.Reads x (Udp.int64 x) :=
  reads_field (length_int64 x) int64At_of_slice

theorem reads_word16 (x : UInt16) : word16.Reads x (BigEndian.encode 2 x.toNat) :=
  reads_field (BigEndian.length_encode 2 _) word16At_of_slice

theorem reads_word32 (x : UInt32) : word32.Reads x (BigEndian.encode 4 x.toNat) :=
  reads_field (BigEndian.length_encode 4 _) word32At_of_slice

theorem reads_identifier (i : Identifier) : identifier.Reads i i.bytes :=
  reads_whole i.length_eq i.ofBytes?_bytes

theorem reads_ipv4 (x : Net.Ipv4) : ipv4.Reads x x.octets :=
  reads_whole rfl x.ofOctets?_octets

end PeerTracker.Udp.Cursor
