import PeerTracker.Bytes.BigEndian

/-!
# Hexadecimal text

Two lower-case digits per octet are written, and digits of either case are read.
-/

namespace PeerTracker.Hex

def digitChar (n : Nat) : Char :=
  if n < 10 then Char.ofNat (48 + n) else Char.ofNat (87 + n)

def encode (bs : Bytes) : List Char :=
  bs.flatMap fun b => [digitChar (b.toNat / 16), digitChar (b.toNat % 16)]

def encodeString (bs : Bytes) : String := String.ofList (encode bs)

/-- The value of a digit, given as an octet. -/
def digit? (b : UInt8) : Option Nat :=
  if 48 ≤ b && b ≤ 57 then some (b.toNat - 48)
  else if 97 ≤ b && b ≤ 102 then some (b.toNat - 87)
  else if 65 ≤ b && b ≤ 70 then some (b.toNat - 55)
  else none

/-- What is wrong with a text of a fixed number of octets. -/
inductive Error where
  | oddLength
  | wrongLength
  | badDigit (octet : UInt8) (position : Nat)
deriving DecidableEq, Repr

/-- The octets of an even number of digits, the first of which stands at
`position`. -/
def pairs (position : Nat) : Bytes → Except Error Bytes
  | hi :: lo :: rest =>
    match digit? hi, digit? lo with
    | none, _ => .error (.badDigit hi position)
    | some _, none => .error (.badDigit lo (position + 1))
    | some h, some l => do
      let tail ← pairs (position + 2) rest
      pure (UInt8.ofNat (16 * h + l) :: tail)
  | _ => .ok []

/-- Reads exactly `size` octets; the length is looked at before the digits. -/
def decode (size : Nat) (text : Bytes) : Except Error Bytes :=
  if text.length % 2 ≠ 0 then .error .oddLength
  else if text.length ≠ 2 * size then .error .wrongLength
  else pairs 0 text

end PeerTracker.Hex
