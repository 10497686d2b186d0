import PeerTracker.Bytes.Hex
import PeerTracker.Table
import PeerTracker.Text.Decimal
import PeerTracker.Text.LowerCase
import PeerTracker.Text.Utf8

/-!
# Query strings

A query string is a list of items between ampersands. Each item is a key, or a
key and a value around the first equals sign, both percent-encoded. Keys are read
as text and lower-cased; values stay raw. `Query.parse` collects the values of
equal keys in the order they arrive; an item whose key is empty spoils the whole
string.
-/

namespace PeerTracker

def percent : UInt8 := 37
def ampersand : UInt8 := 38
def equalsSign : UInt8 := 61

/-- The octet that two hexadecimal digits in front stand for. -/
def escaped? : Bytes → Option UInt8
  | h :: l :: _ =>
    match Hex.digit? h, Hex.digit? l with
    | some hi, some lo => some (UInt8.ofNat (16 * hi + lo))
    | _, _ => none
  | _ => none

/-- Replaces every `%` that two hexadecimal digits follow; others stay. -/
def percentDecode : Bytes → Bytes
  | [] => []
  | b :: rest =>
    match if b = percent then escaped? rest else none with
    | some octet => octet :: percentDecode (rest.drop 2)
    | none => b :: percentDecode rest
  termination_by bs => bs.length
  decreasing_by
    all_goals simp only [List.length_cons, List.length_drop]
    all_goals omega

/-- The parts between separators, at least one. -/
def splitAt (sep : UInt8) : Bytes → List Bytes
  | [] => [[]]
  | b :: rest =>
    if b = sep then [] :: splitAt sep rest
    else match splitAt sep rest with
      | [] => [[b]]
      | part :: parts => (b :: part) :: parts

/-- What stands before the first separator, and after it if there is one. -/
def cutAt (sep : UInt8) : Bytes → Bytes × Option Bytes
  | [] => ([], none)
  | b :: rest =>
    if b = sep then ([], some rest)
    else
      let (front, back) := cutAt sep rest
      (b :: front, back)

/-- Values by key, in order of arrival. -/
abbrev Query := Table String (List Bytes)

namespace Query

inductive Error where
  | emptyKey
deriving DecidableEq, Repr

def Error.message : Error → String
  | .emptyKey => "empty query key"

/-- The text a raw key stands for. -/
def keyText (raw : Bytes) : String :=
  String.ofList (LowerCase.lower (Utf8.lossy (percentDecode raw)))

/-- One more item. -/
def addItem (q : Query) (item : Bytes) : Except Error Query :=
  let (rawKey, rawValue) := cutAt equalsSign item
  let key := keyText rawKey
  if key = "" then .error .emptyKey
  else
    let held := (q.get? key).getD []
    .ok (q.insert key (held ++ (rawValue.map percentDecode).toList))

def parse (raw : Bytes) : Except Error Query :=
  ((splitAt ampersand raw).filter (· ≠ [])).foldlM addItem ∅

/-- No query string at all reads as one without items. -/
def parse? (raw : Option Bytes) : Except Error Query :=
  match raw with
  | none => .ok ∅
  | some raw => parse raw

/-- The first value of a key; a key without a value reads as empty. -/
def value? (q : Query) (key : String) : Option Bytes :=
  (q.get? key).map fun values => values.headD []

/-- A numeric field: `none` if absent or empty, else what `reader` makes of it. -/
def number? (q : Query) (key : String) (reader : Bytes → Option α) : Option (Option α) :=
  ((q.value? key).filter (· ≠ [])).map reader

/-- A flag is set by the value `1` or by its bare key. -/
def flag (q : Query) (key : String) : Bool :=
  match q.get? key with
  | none => false
  | some [] => true
  | some (v :: _) => v == ascii "1"

end Query

end PeerTracker
