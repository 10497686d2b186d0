import PeerTracker.Bytes.BigEndian

/-!
# MessagePack

Values are written in their shortest form. The reader takes every form, allows
containers to nest `depthLimit` deep, and leaves what follows the value.
-/

namespace PeerTracker

inductive MessagePack where
  | nil
  | bool (b : Bool)
  | int (i : Int)
  | float (octets : Bytes)
  | str (octets : Bytes)
  | bin (octets : Bytes)
  | array (items : List MessagePack)
  | map (entries : List (MessagePack × MessagePack))
  | ext (kind : UInt8) (octets : Bytes)

namespace MessagePack

/-! ## Writing -/

def marked (marker : UInt8) (width n : Nat) : Bytes := marker :: BigEndian.encode width n

def encodeNat (n : Nat) : Bytes :=
  if n < 0x80 then [UInt8.ofNat n]
  else if n < 0x100 then marked 0xCC 1 n
  else if n < 0x10000 then marked 0xCD 2 n
  else if n < 0x100000000 then marked 0xCE 4 n
  else marked 0xCF 8 n

/-- A negative number `-1 - n` in two's complement. -/
def encodeNegative (n : Nat) : Bytes :=
  if n < 0x20 then [UInt8.ofNat (0x100 - 1 - n)]
  else if n < 0x80 then marked 0xD0 1 (0x100 - 1 - n)
  else if n < 0x8000 then marked 0xD1 2 (0x10000 - 1 - n)
  else if n < 0x80000000 then marked 0xD2 4 (0x100000000 - 1 - n)
  else marked 0xD3 8 (0x10000000000000000 - 1 - n)

def encodeInt : Int → Bytes
  | .ofNat n => encodeNat n
  | .negSucc n => encodeNegative n

def strHeader (n : Nat) : Bytes :=
  if n < 0x20 then [UInt8.ofNat (0xA0 + n)]
  else if n < 0x100 then marked 0xD9 1 n
  else if n < 0x10000 then marked 0xDA 2 n
  else marked 0xDB 4 n

def binHeader (n : Nat) : Bytes :=
  if n < 0x100 then marked 0xC4 1 n
  else if n < 0x10000 then marked 0xC5 2 n
  else marked 0xC6 4 n

def arrayHeader (n : Nat) : Bytes :=
  if n < 0x10 then [UInt8.ofNat (0x90 + n)]
  else if n < 0x10000 then marked 0xDC 2 n
  else marked 0xDD 4 n

def mapHeader (n : Nat) : Bytes :=
  if n < 0x10 then [UInt8.ofNat (0x80 + n)]
  else if n < 0x10000 then marked 0xDE 2 n
  else marked 0xDF 4 n

mutual

def encode : MessagePack → Bytes
  | nil => [0xC0]
  | bool b => [if b then 0xC3 else 0xC2]
  | int i => encodeInt i
  | float octets => (if octets.length = 4 then 0xCA else 0xCB) :: octets
  | str octets => strHeader octets.length ++ octets
  | bin octets => binHeader octets.length ++ octets
  | array items => arrayHeader items.length ++ encodeItems items
  | map entries => mapHeader entries.length ++ encodeEntries entries
  | ext kind octets => marked 0xC9 4 octets.length ++ [kind] ++ octets

def encodeItems : List MessagePack → Bytes
  | [] => []
  | v :: rest => encode v ++ encodeItems rest

def encodeEntries : List (MessagePack × MessagePack) → Bytes
  | [] => []
  | (k, v) :: rest => encode k ++ encode v ++ encodeEntries rest

end

/-! ## Reading -/

/-- How deep containers may nest. -/
def depthLimit : Nat := 1024

/-- `n` octets and the rest. Only those that are taken are counted. -/
def takeOctets (n : Nat) (bs : Bytes) : Option (Bytes × Bytes) :=
  let front := bs.take n
  if front.length = n then some (front, bs.drop n) else none

def takeNat (width : Nat) (bs : Bytes) : Option (Nat × Bytes) :=
  (takeOctets width bs).map fun r => (BigEndian.decode r.1, r.2)

/-- The signed number that `width` octets hold. -/
def signed (width n : Nat) : Int :=
  if 2 * n < BigEndian.span width then n else (n : Int) - BigEndian.span width

/-- What a first octet announces. -/
inductive Head where
  | value (v : MessagePack)
  | natural (width : Nat)
  | integer (width : Nat)
  | floating (width : Nat)
  | str (length : Nat)
  | bin (length : Nat)
  | array (length : Nat)
  | map (length : Nat)
  | ext (length : Nat)

/-- A length of `width` octets goes into a head. -/
def sized (width : Nat) (head : Nat → Head) (bs : Bytes) : Option (Head × Bytes) :=
  (takeNat width bs).map fun r => (head r.1, r.2)

def readHead : Bytes → Option (Head × Bytes)
  | [] => none
  | b :: bs =>
    let n := b.toNat
    if n < 0x80 then some (.value (.int n), bs)
    else if n < 0x90 then some (.map (n - 0x80), bs)
    else if n < 0xA0 then some (.array (n - 0x90), bs)
    else if n < 0xC0 then some (.str (n - 0xA0), bs)
    else if 0xE0 ≤ n then some (.value (.int (n - 0x100)), bs)
    else if n = 0xC0 then some (.value .nil, bs)
    else if n = 0xC2 then some (.value (.bool false), bs)
    else if n = 0xC3 then some (.value (.bool true), bs)
    else if n = 0xC4 then sized 1 .bin bs
    else if n = 0xC5 then sized 2 .bin bs
    else if n = 0xC6 then sized 4 .bin bs
    else if n = 0xC7 then sized 1 .ext bs
    else if n = 0xC8 then sized 2 .ext bs
    else if n = 0xC9 then sized 4 .ext bs
    else if n = 0xCA then some (.floating 4, bs)
    else if n = 0xCB then some (.floating 8, bs)
    else if 0xCC ≤ n ∧ n ≤ 0xCF then some (.natural (Nat.pow 2 (n - 0xCC)), bs)
    else if 0xD0 ≤ n ∧ n ≤ 0xD3 then some (.integer (Nat.pow 2 (n - 0xD0)), bs)
    else if 0xD4 ≤ n ∧ n ≤ 0xD8 then some (.ext (Nat.pow 2 (n - 0xD4)), bs)
    else if n = 0xD9 then sized 1 .str bs
    else if n = 0xDA then sized 2 .str bs
    else if n = 0xDB then sized 4 .str bs
    else if n = 0xDC then sized 2 .array bs
    else if n = 0xDD then sized 4 .array bs
    else if n = 0xDE then sized 2 .map bs
    else if n = 0xDF then sized 4 .map bs
    else none

/-- `n` values, each read by `read`. -/
def readItems (read : Bytes → Option (MessagePack × Bytes)) :
    (n : Nat) → Bytes → Option (List MessagePack × Bytes)
  | 0, bs => some ([], bs)
  | n + 1, bs => do
    let (v, bs) ← read bs
    let (vs, bs) ← readItems read n bs
    pure (v :: vs, bs)

/-- `n` keys with values, each read by `read`. -/
def readEntries (read : Bytes → Option (MessagePack × Bytes)) :
    (n : Nat) → Bytes → Option (List (MessagePack × MessagePack) × Bytes)
  | 0, bs => some ([], bs)
  | n + 1, bs => do
    let (k, bs) ← read bs
    let (v, bs) ← read bs
    let (es, bs) ← readEntries read n bs
    pure ((k, v) :: es, bs)

/-- What the head announces, the parts of a container being read by `read`. -/
def readBody (read : Bytes → Option (MessagePack × Bytes)) (head : Head) (bs : Bytes) :
    Option (MessagePack × Bytes) :=
  match head with
  | .value v => some (v, bs)
  | .natural w => (takeNat w bs).map fun r => (.int r.1, r.2)
  | .integer w => (takeNat w bs).map fun r => (.int (signed w r.1), r.2)
  | .floating w => (takeOctets w bs).map fun r => (.float r.1, r.2)
  | .str n => (takeOctets n bs).map fun r => (.str r.1, r.2)
  | .bin n => (takeOctets n bs).map fun r => (.bin r.1, r.2)
  | .ext n => do
    let (kind, bs) ← takeOctets 1 bs
    let (data, bs) ← takeOctets n bs
    pure (.ext (kind.headD 0) data, bs)
  | .array n => (readItems read n bs).map fun r => (.array r.1, r.2)
  | .map n => (readEntries read n bs).map fun r => (.map r.1, r.2)

/-- One value in front, containers nesting at most `depth` deep, and the rest. -/
def read : (depth : Nat) → Bytes → Option (MessagePack × Bytes)
  | 0, bs => do
    let (head, bs) ← readHead bs
    readBody (fun _ => none) head bs
  | depth + 1, bs => do
    let (head, bs) ← readHead bs
    readBody (read depth) head bs

/-- The value in front. -/
def decode (bs : Bytes) : Option MessagePack := (read depthLimit bs).map Prod.fst

end MessagePack

end PeerTracker
