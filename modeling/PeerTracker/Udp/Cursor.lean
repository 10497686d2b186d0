import PeerTracker.Identifier
import PeerTracker.Net.Address
import PeerTracker.Udp.Field

/-!
# Reading a datagram from front to back

A cursor reads what stands at its place and moves on behind it; where the datagram ends
before that, reading fails. Fields read one after the other make one field again, as wide
as they are together (`Cursor.field_bind_field`): such a reader fails just where the
datagram is too short for all of them, and what it reads can be found by offset.
-/

namespace PeerTracker.Udp

/-- Reads from a datagram at a place, and gives the place behind what was read. -/
def Cursor (α : Type) := Bytes → Nat → Option (α × Nat)

namespace Cursor

instance : Monad Cursor where
  pure x := fun _ place => some (x, place)
  bind read next := fun bs place => (read bs place).bind fun r => next r.1 bs r.2

/-- A field of `size` octets. -/
def field {α : Type} (size : Nat) (read : Bytes → Nat → α) : Cursor α := fun bs place =>
  if place + size ≤ bs.length then some (read bs place, place + size) else none

/-- `size` octets that stand for a value if they are all there. -/
def whole {α : Type} (size : Nat) (value? : Bytes → Option α) : Cursor α := fun bs place =>
  (value? (slice bs place size)).map fun x => (x, place + size)

def int32 : Cursor Int32 := field 4 int32At

def int64 : Cursor Int64 := field 8 int64At

def word16 : Cursor UInt16 := field 2 word16At

def word32 : Cursor UInt32 := field 4 word32At

def identifier : Cursor Identifier := whole 20 Identifier.ofBytes?

def ipv4 : Cursor Net.Ipv4 := whole 4 Net.Ipv4.ofOctets?

section Laws

variable {α β : Type} {bs : Bytes} {place : Nat}

theorem pure_run (x : α) : (pure x : Cursor α) bs place = some (x, place) := rfl

theorem bind_run (read : Cursor α) (next : α → Cursor β) :
    (read >>= next) bs place = (read bs place).bind fun r => next r.1 bs r.2 := rfl

theorem field_of_le {size : Nat} {read : Bytes → Nat → α} (h : place + size ≤ bs.length) :
    field size read bs place = some (read bs place, place + size) := if_pos h

theorem field_of_lt {size : Nat} {read : Bytes → Nat → α} (h : bs.length < place + size) :
    field size read bs place = none := if_neg (Nat.not_le.mpr h)

/-- Two fields are one field, the second of which begins where the first ends. -/
theorem field_bind_field {m n : Nat} {read : Bytes → Nat → α} {next : α → Bytes → Nat → β} :
    (field m read >>= fun x => field n (next x)) =
      field (m + n) fun bs place => next (read bs place) bs (place + m) := by
  funext bs place
  rw [bind_run]
  by_cases hfirst : place + m ≤ bs.length
  · rw [field_of_le hfirst, Option.bind_some, field, field, Nat.add_assoc]
  · have hlt := Nat.lt_of_not_le hfirst
    rw [field_of_lt hlt, Option.bind_none, field_of_lt (by omega)]

/-- What is made of a field takes no more room. -/
theorem field_bind_pure {n : Nat} {read : Bytes → Nat → α} {make : α → β} :
    (field n read >>= fun x => pure (make x)) =
      field n fun bs place => make (read bs place) := by
  funext bs place
  rw [bind_run]
  by_cases h : place + n ≤ bs.length
  · rw [field_of_le h, field_of_le h]
    rfl
  · have hlt := Nat.lt_of_not_le h
    rw [field_of_lt hlt, field_of_lt hlt, Option.bind_none]

/-- If just `size` octets stand for a value, that is a field as any other. -/
theorem whole_eq_field {size : Nat} (hsize : 0 < size) {value? : Bytes → Option α}
    (h : ∀ bs, (value? bs).isSome ↔ bs.length = size) (other : α) :
    whole size value? = field size fun bs place => (value? (slice bs place size)).getD other := by
  funext bs place
  have hlength := h (slice bs place size)
  rw [length_slice] at hlength
  by_cases hle : place + size ≤ bs.length
  · obtain ⟨x, hx⟩ := Option.isSome_iff_exists.mp (hlength.mpr (by omega))
    rw [field_of_le hle, whole, hx]
    rfl
  · have hnone : value? (slice bs place size) = none := by
      rw [← Option.not_isSome_iff_eq_none, hlength]
      omega
    rw [field_of_lt (Nat.lt_of_not_le hle), whole, hnone]
    rfl

end Laws

end Cursor

end PeerTracker.Udp
