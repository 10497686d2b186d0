import PeerTracker.Bytes.BigEndian

/-!
# UTF-8, read leniently

`Utf8.encode` writes code points. `Utf8.lossy` reads any byte string: each
longest malformed run that could still have begun a sequence becomes one
U+FFFD, and well-formed sequences are kept. So reading a written text gives the
text back.
-/

namespace PeerTracker.Utf8

def encode (cs : List Char) : Bytes :=
  cs.flatMap String.utf8EncodeChar

/-- The octets of a text. -/
def ofString (s : String) : Bytes := encode s.toList

def isContinuation (b : UInt8) : Bool := 0x80 ≤ b && b ≤ 0xBF

/-- What may follow a lead octet as its second one: the number of octets after
the lead, and the range of the first of them. -/
def follow (lead : UInt8) : Option (Nat × UInt8 × UInt8) :=
  if 0xC2 ≤ lead && lead ≤ 0xDF then some (1, 0x80, 0xBF)
  else if lead == 0xE0 then some (2, 0xA0, 0xBF)
  else if lead == 0xED then some (2, 0x80, 0x9F)
  else if 0xE1 ≤ lead && lead ≤ 0xEF then some (2, 0x80, 0xBF)
  else if lead == 0xF0 then some (3, 0x90, 0xBF)
  else if 0xF1 ≤ lead && lead ≤ 0xF3 then some (3, 0x80, 0xBF)
  else if lead == 0xF4 then some (3, 0x80, 0x8F)
  else none

/-- The number of octets after the lead that belong to its sequence, well formed
or not. -/
def extent (lead : UInt8) (rest : Bytes) : Nat :=
  match follow lead, rest with
  | some (n, lo, hi), b :: more =>
    if lo ≤ b && b ≤ hi then 1 + ((more.take (n - 1)).takeWhile isContinuation).length else 0
  | _, _ => 0

/-- The code point of a lead octet and its continuation octets. -/
def assemble (lead : UInt8) (tail : Bytes) : Char :=
  let top := match tail.length with
    | 1 => lead.toNat % 32
    | 2 => lead.toNat % 16
    | _ => lead.toNat % 8
  Char.ofNat (tail.foldl (fun acc b => acc * 64 + b.toNat % 64) top)

def lossy : Bytes → List Char
  | [] => []
  | lead :: rest =>
    if lead < 0x80 then Char.ofNat lead.toNat :: lossy rest
    else
      let tail := rest.take (extent lead rest)
      let c :=
        if (follow lead).any (fun f => f.1 == tail.length) then assemble lead tail
        else Char.ofNat 0xFFFD
      c :: lossy (rest.drop (extent lead rest))
  termination_by bs => bs.length
  decreasing_by
    all_goals simp only [List.length_cons, List.length_drop]
    all_goals omega

def lossyString (bs : Bytes) : String := String.ofList (lossy bs)

end PeerTracker.Utf8
