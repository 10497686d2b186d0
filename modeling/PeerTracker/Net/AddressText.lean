import PeerTracker.Net.Address
import PeerTracker.Text.Quoted

/-!
# Addresses as text

Octets are written in decimal without leading zeros, groups in lower-case
hexadecimal. The longest run of at least two zero groups, the first of equals,
is written as `::`, and an address that carries an IPv4 one ends in dotted form.
The reader takes what this form allows, with groups of up to four digits of
either case and a dotted form at the end of any IPv6 address.
-/

namespace PeerTracker.Net

/-! ## Writing -/

def decimalChars (n : Nat) : List Char := (toString n).toList

namespace Ipv4

def chars (x : Ipv4) : List Char :=
  decimalChars x.a.toNat ++ ['.'] ++ decimalChars x.b.toNat ++ ['.'] ++ decimalChars x.c.toNat
    ++ ['.'] ++ decimalChars x.d.toNat

end Ipv4

namespace Ipv6

/-- Groups with colons between them. -/
def joinGroups : List UInt16 → List Char
  | [] => []
  | [g] => Quoted.hexDigits g.toNat
  | g :: rest => Quoted.hexDigits g.toNat ++ [':'] ++ joinGroups rest

/-- The number of zero groups from index `i` on. -/
def zeroRun (gs : List UInt16) (i : Nat) : Nat :=
  ((gs.drop i).takeWhile (· == 0)).length

/-- Where the longest run of zero groups begins, the first of equals. -/
def longestRun (gs : List UInt16) : Nat :=
  (List.range gs.length).foldl (fun best i => if zeroRun gs best < zeroRun gs i then i else best) 0

def groupsText (gs : List UInt16) : List Char :=
  let start := longestRun gs
  let len := zeroRun gs start
  if 1 < len then
    joinGroups (gs.take start) ++ [':', ':'] ++ joinGroups (gs.drop (start + len))
  else joinGroups gs

def chars (x : Ipv6) : List Char :=
  match x.mapped? with
  | some y => "::ffff:".toList ++ y.chars
  | none => groupsText x.groups

end Ipv6

namespace IpAddr

def chars : IpAddr → List Char
  | v4 x => x.chars
  | v6 x => x.chars

def toText (ip : IpAddr) : String := String.ofList ip.chars

end IpAddr

namespace Endpoint

def chars (e : Endpoint) : List Char :=
  let port := [':'] ++ decimalChars e.port.toNat
  if e.ip.isV4 then e.ip.chars ++ port
  else
    let zone := if e.scope = 0 then [] else ['%'] ++ decimalChars e.scope.toNat
    ['['] ++ e.ip.chars ++ zone ++ [']'] ++ port

def toText (e : Endpoint) : String := String.ofList e.chars

end Endpoint

/-! ## Reading

A reader returns what it read and the rest, or `none`. -/

def digitValue? (radix : Nat) (c : Char) : Option Nat :=
  let v :=
    if '0' ≤ c && c ≤ '9' then some (c.toNat - 48)
    else if 'a' ≤ c && c ≤ 'f' then some (c.toNat - 87)
    else if 'A' ≤ c && c ≤ 'F' then some (c.toNat - 55)
    else none
  v.filter (· < radix)

/-- Digits in front, and what follows them. -/
def digitRun (radix : Nat) : List Char → List Nat × List Char
  | [] => ([], [])
  | c :: rest =>
    match digitValue? radix c with
    | none => ([], c :: rest)
    | some d =>
      let (ds, rest') := digitRun radix rest
      (d :: ds, rest')

/-- A number up to `limit`, all of whose digits are taken. -/
def readNumber (radix limit : Nat) (cs : List Char) : Option (Nat × List Char) :=
  let (ds, rest) := digitRun radix cs
  let n := ds.foldl (fun n d => n * radix + d) 0
  if ds ≠ [] ∧ n ≤ limit then some (n, rest) else none

/-- One part of a dotted address: up to three digits, no leading zero. -/
def readOctet (cs : List Char) : Option (UInt8 × List Char) :=
  let (ds, rest) := digitRun 10 cs
  let n := ds.foldl (fun n d => n * 10 + d) 0
  if ds.length = 1 ∨ (2 ≤ ds.length ∧ ds.length ≤ 3 ∧ ds.head? ≠ some 0 ∧ n ≤ 255) then
    some (UInt8.ofNat n, rest)
  else none

/-- One group: up to four digits. -/
def readGroup (cs : List Char) : Option (UInt16 × List Char) :=
  let (ds, rest) := digitRun 16 cs
  if 1 ≤ ds.length ∧ ds.length ≤ 4 then
    some (UInt16.ofNat (ds.foldl (fun n d => n * 16 + d) 0), rest)
  else none

def readChar (c : Char) : List Char → Option (List Char)
  | [] => none
  | x :: rest => if x = c then some rest else none

def readV4 (cs : List Char) : Option (Ipv4 × List Char) := do
  let (a, cs) ← readOctet cs
  let cs ← readChar '.' cs
  let (b, cs) ← readOctet cs
  let cs ← readChar '.' cs
  let (c, cs) ← readOctet cs
  let cs ← readChar '.' cs
  let (d, cs) ← readOctet cs
  pure (⟨a, b, c, d⟩, cs)

def joinOctets (hi lo : UInt8) : UInt16 := UInt16.ofNat (hi.toNat * 256 + lo.toNat)

/-- Up to `room` groups with colons between them, the last two of which may be
dotted; tells whether they were. -/
def readGroups (first : Bool) : (room : Nat) → List Char → List UInt16 × Bool × List Char
  | 0, cs => ([], false, cs)
  | room + 1, cs =>
    match if first then some cs else readChar ':' cs with
    | none => ([], false, cs)
    | some body =>
      match if 1 ≤ room then readV4 body else none with
      | some (x, rest) => ([joinOctets x.a x.b, joinOctets x.c x.d], true, rest)
      | none =>
        match readGroup body with
        | none => ([], false, cs)
        | some (g, rest) =>
          let (gs, dotted, rest') := readGroups false room rest
          (g :: gs, dotted, rest')

/-- Eight groups, or fewer around one `::`. -/
def readV6 (cs : List Char) : Option (Ipv6 × List Char) := do
  let (head, dotted, rest) := readGroups true 8 cs
  if head.length = 8 then
    let ip ← Ipv6.ofGroups? head
    pure (ip, rest)
  else if dotted then none
  else
    let rest ← readChar ':' rest
    let rest ← readChar ':' rest
    let (tail, _, rest) := readGroups true (7 - head.length) rest
    let ip ← Ipv6.ofGroups? (head ++ List.replicate (8 - head.length - tail.length) 0 ++ tail)
    pure (ip, rest)

/-- What a reader makes of a whole text. -/
def readAll (reader : List Char → Option (α × List Char)) (s : String) : Option α :=
  match reader s.toList with
  | some (x, []) => some x
  | _ => none

def IpAddr.ofText? (s : String) : Option IpAddr :=
  readAll (fun cs =>
    ((readV4 cs).map fun r => (IpAddr.v4 r.1, r.2)).or
      ((readV6 cs).map fun r => (IpAddr.v6 r.1, r.2))) s

def readPort (cs : List Char) : Option (UInt16 × List Char) := do
  let cs ← readChar ':' cs
  let (n, rest) ← readNumber 10 65535 cs
  pure (UInt16.ofNat n, rest)

/-- A zone such as `%5`. -/
def readScope (cs : List Char) : Option (UInt32 × List Char) := do
  let cs ← readChar '%' cs
  let (n, rest) ← readNumber 10 4294967295 cs
  pure (UInt32.ofNat n, rest)

def readEndpoint4 (cs : List Char) : Option (Endpoint × List Char) := do
  let (ip, cs) ← readV4 cs
  let (port, rest) ← readPort cs
  pure (⟨.v4 ip, port, 0⟩, rest)

def readEndpoint6 (cs : List Char) : Option (Endpoint × List Char) := do
  let cs ← readChar '[' cs
  let (ip, cs) ← readV6 cs
  let (scope, cs) := (readScope cs).getD (0, cs)
  let cs ← readChar ']' cs
  let (port, rest) ← readPort cs
  pure (⟨.v6 ip, port, scope⟩, rest)

def Endpoint.ofText? (s : String) : Option Endpoint :=
  readAll (fun cs => (readEndpoint4 cs).or (readEndpoint6 cs)) s

end PeerTracker.Net
