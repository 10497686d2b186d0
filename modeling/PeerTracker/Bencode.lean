import PeerTracker.Bytes.Order
import PeerTracker.Text.Decimal

/-!
# Bencoding

Integers, byte strings, lists and dictionaries. A dictionary is canonical when
its keys strictly increase; `Bencode.dictOf` builds such a one from entries in
any order, the last of equal keys winning. `Bencode.decode` reads canonical
forms back.
-/

namespace PeerTracker

inductive Bencode where
  | int (i : Int)
  | bytes (bs : Bytes)
  | list (items : List Bencode)
  | dict (entries : List (Bytes × Bencode))

namespace Bencode

def encodeBytes (bs : Bytes) : Bytes :=
  Decimal.write bs.length ++ ascii ":" ++ bs

def encodeInt (i : Int) : Bytes := ascii "i" ++ Decimal.writeInt i ++ ascii "e"

mutual

def encode : Bencode → Bytes
  | int i => encodeInt i
  | bytes bs => encodeBytes bs
  | list items => ascii "l" ++ encodeItems items ++ ascii "e"
  | dict entries => ascii "d" ++ encodeEntries entries ++ ascii "e"

def encodeItems : List Bencode → Bytes
  | [] => []
  | v :: rest => encode v ++ encodeItems rest

def encodeEntries : List (Bytes × Bencode) → Bytes
  | [] => []
  | (k, v) :: rest => encodeBytes k ++ encode v ++ encodeEntries rest

end

/-- Puts an entry in its place in an increasing list, over an equal key. -/
def insertKey (k : Bytes) (v : Bencode) : List (Bytes × Bencode) → List (Bytes × Bencode)
  | [] => [(k, v)]
  | e :: rest =>
    if Bytes.before k e.1 then (k, v) :: e :: rest
    else if k = e.1 then (k, v) :: rest
    else e :: insertKey k v rest

def dictOf (entries : List (Bytes × Bencode)) : Bencode :=
  dict (entries.foldl (fun d e => insertKey e.1 e.2 d) [])

/-- A text as a byte string. -/
def text (s : String) : Bencode := bytes (ascii s)

/-! ## Reading

Only canonical forms are read: no leading zeros, no negative zero, keys in
increasing order. -/

/-- The digits in front, which must be as `Decimal.write` writes them. -/
def readNat (bs : Bytes) : Option (Nat × Bytes) :=
  let digits := bs.takeWhile Decimal.isDigit
  (Decimal.read? digits).bind fun n =>
    if Decimal.write n = digits then some (n, bs.drop digits.length) else none

def readSigned : Bytes → Option (Int × Bytes)
  | 45 :: rest =>
    match readNat rest with
    | some (n + 1, rest) => some (-(n + 1 : Nat), rest)
    | _ => none
  | bs => (readNat bs).map fun (n, rest) => (n, rest)

/-- What follows the octet `b`. -/
def readOctet (b : UInt8) : Bytes → Option Bytes
  | [] => none
  | x :: rest => if x = b then some rest else none

def readString (bs : Bytes) : Option (Bytes × Bytes) := do
  let (n, rest) ← readNat bs
  let rest ← readOctet 58 rest
  if n ≤ rest.length then some (rest.take n, rest.drop n) else none

/-- Whether a key may stand in front of these entries. -/
def precedes (k : Bytes) : List (Bytes × Bencode) → Bool
  | [] => true
  | e :: _ => Bytes.before k e.1

mutual

def read : (fuel : Nat) → Bytes → Option (Bencode × Bytes)
  | 0, _ => none
  | _ + 1, 105 :: rest => do
    let (i, rest) ← readSigned rest
    let rest ← readOctet 101 rest
    pure (int i, rest)
  | fuel + 1, 108 :: rest => do
    let (items, rest) ← readItems fuel rest
    pure (list items, rest)
  | fuel + 1, 100 :: rest => do
    let (entries, rest) ← readEntries fuel rest
    pure (dict entries, rest)
  | _ + 1, bs => do
    let (s, rest) ← readString bs
    pure (bytes s, rest)

def readItems : (fuel : Nat) → Bytes → Option (List Bencode × Bytes)
  | 0, _ => none
  | _ + 1, 101 :: rest => some ([], rest)
  | fuel + 1, bs => do
    let (v, rest) ← read fuel bs
    let (vs, rest) ← readItems fuel rest
    pure (v :: vs, rest)

def readEntries : (fuel : Nat) → Bytes → Option (List (Bytes × Bencode) × Bytes)
  | 0, _ => none
  | _ + 1, 101 :: rest => some ([], rest)
  | fuel + 1, bs => do
    let (k, rest) ← readString bs
    let (v, rest) ← read fuel rest
    let (es, rest) ← readEntries fuel rest
    if precedes k es then pure ((k, v) :: es, rest) else none

end

/-- Reads a whole byte string as one value. -/
def decode (bs : Bytes) : Option Bencode :=
  match read (bs.length + 1) bs with
  | some (v, []) => some v
  | _ => none

end Bencode

end PeerTracker
