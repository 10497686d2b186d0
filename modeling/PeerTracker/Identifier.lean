import PeerTracker.Bytes.Hex
import PeerTracker.Bytes.Order
import PeerTracker.Text.Quoted
import PeerTracker.Text.Utf8

/-!
# Identifiers

Torrents and peers are named by twenty octets. The text form has forty
lower-case hexadecimal digits; reading takes either case. The order of
identifiers is the order of their octets, which is also the order of their
texts.
-/

namespace PeerTracker

/-- Twenty octets. -/
structure Identifier where
  bytes : Bytes
  length_eq : bytes.length = 20
deriving DecidableEq

/-- What a torrent is known by. -/
abbrev InfoHash := Identifier

/-- What a peer calls itself. -/
abbrev PeerId := Identifier

namespace Identifier

def ofBytes? (bs : Bytes) : Option Identifier :=
  if h : bs.length = 20 then some ⟨bs, h⟩ else none

/-- All octets zero. -/
def zero : Identifier := ⟨List.replicate 20 0, by simp⟩

instance : Inhabited Identifier := ⟨zero⟩

def toText (i : Identifier) : String := Hex.encodeString i.bytes

def ofText (s : String) : Except Hex.Error Identifier := do
  let bs ← Hex.decode 20 (Utf8.ofString s)
  match ofBytes? bs with
  | some i => pure i
  | none => throw .wrongLength

def compare (a b : Identifier) : Ordering :=
  Bytes.order a.bytes b.bytes

theorem ofBytes?_bytes (i : Identifier) : ofBytes? i.bytes = some i := by
  simp [ofBytes?, i.length_eq]

theorem bytes_of_ofBytes? {bs : Bytes} {i : Identifier} (h : ofBytes? bs = some i) :
    i.bytes = bs := by
  unfold ofBytes? at h
  split at h
  · cases h
    rfl
  · cases h

theorem ofBytes?_isSome_iff (bs : Bytes) : (ofBytes? bs).isSome ↔ bs.length = 20 := by
  unfold ofBytes?
  split <;> simp_all

theorem filterMap_map_bytes (ids : List Identifier) :
    (ids.map (·.bytes)).filterMap ofBytes? = ids := by
  induction ids with
  | nil => rfl
  | cons id ids ih => rw [List.map_cons, List.filterMap_cons_some id.ofBytes?_bytes, ih]

theorem map_bytes_filterMap {texts : List Bytes} (h : ∀ bs ∈ texts, bs.length = 20) :
    (texts.filterMap ofBytes?).map (·.bytes) = texts := by
  induction texts with
  | nil => rfl
  | cons bs texts ih =>
      obtain ⟨hbs, htexts⟩ := List.forall_mem_cons.mp h
      rw [List.filterMap_cons_some (dif_pos hbs), List.map_cons, ih htexts]

end Identifier

/-- The wording of a failed reading. -/
def Hex.Error.message : Hex.Error → String
  | .oddLength => "Odd number of digits"
  | .wrongLength => "Invalid string length"
  | .badDigit octet position =>
    "Invalid character " ++ Quoted.char (Char.ofNat octet.toNat) ++ " at position "
      ++ toString position

/-- A value of a data format, as far as a reader that wants a text tells it from
others. -/
inductive Shape where
  | null
  | boolean (b : Bool)
  | integer (i : Int)
  | fraction (text : String)
  | text (s : String)
  | sequence
  | map

namespace Shape

/-- How a value is named in a complaint about its type. -/
def describe : Shape → String
  | .null => "null"
  | .boolean b => "boolean " ++ "`" ++ toString b ++ "`"
  | .integer i => "integer " ++ "`" ++ toString i ++ "`"
  | .fraction t => "floating point " ++ "`" ++ t ++ "`"
  | .text s => "string " ++ Quoted.text s
  | .sequence => "sequence"
  | .map => "map"

end Shape

/-- Reads the serialised form of an identifier, which is its text. -/
def Identifier.ofShape : Shape → Except String Identifier
  | .text s =>
    match Identifier.ofText s with
    | .ok i => .ok i
    | .error e => .error ("expected 40 character hex string: " ++ e.message)
  | v => .error ("invalid type: " ++ v.describe ++ ", expected a 40 character hex string")

end PeerTracker
