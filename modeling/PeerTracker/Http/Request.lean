import PeerTracker.Net.AddressText
import PeerTracker.Query

/-!
# Web requests

A request names a path and possibly a query string, carries headers, and comes
from an endpoint. Behind a proxy the client's address stands in a header that the
operator names; a request without that header is the proxy's own.
-/

namespace PeerTracker.Http

structure Request where
  method : String := "GET"
  /-- Path and query as sent, with or without scheme and host. -/
  target : Bytes
  headers : List (String × Bytes) := []
  /-- Where the connection comes from, if that is known. -/
  remote : Option Net.Endpoint

namespace Request

/-- What follows `://` and the host. -/
def withoutHost (target : Bytes) : Bytes :=
  match target with
  | 47 :: _ => target
  | _ =>
    let rec afterScheme : Bytes → Option Bytes
      | 58 :: 47 :: 47 :: rest => some rest
      | _ :: rest => afterScheme rest
      | [] => none
    match afterScheme target with
    | none => target
    | some rest =>
      let path := rest.dropWhile fun b => b ≠ 47 && b ≠ 63
      if path.head? = some 47 then path else 47 :: path

/-- The target without its fragment, cut at the first question mark. -/
def split (r : Request) : Bytes × Option Bytes :=
  cutAt 63 (cutAt 35 (withoutHost r.target)).1

/-- The query string, empty if there is none. -/
def query (r : Request) : Bytes := r.split.2.getD []

/-- An escape in a path that stays as it is: those of `%`, `+` and `/`. -/
def isKept (octet : UInt8) : Bool := octet = 37 || octet = 43 || octet = 47

def decodePath : Bytes → Bytes
  | [] => []
  | b :: rest =>
    match if b = percent then (escaped? rest).filter (!isKept ·) else none with
    | some octet => octet :: decodePath (rest.drop 2)
    | none => b :: decodePath rest
  termination_by bs => bs.length
  decreasing_by
    all_goals simp only [List.length_cons, List.length_drop]
    all_goals omega

def path (r : Request) : Bytes := decodePath r.split.1

/-- The first header of that name, whatever the case of its letters. -/
def header? (r : Request) (name : String) : Option Bytes :=
  (r.headers.find? fun h => h.1.toLower = name.toLower).map Prod.snd

/-- What may stand in a header that is read as text. -/
def isText (b : UInt8) : Bool := (32 ≤ b && b < 127) || b = 9

def isSpace (c : Char) : Bool := c = ' ' || c = '\t'

def trim (cs : List Char) : List Char :=
  ((cs.dropWhile isSpace).reverse.dropWhile isSpace).reverse

/-- The address that a header names. -/
def addressOf (value : Bytes) : Option Net.IpAddr :=
  if value.all isText then
    Net.IpAddr.ofText? (String.ofList (trim (value.map fun b => Char.ofNat b.toNat)))
  else none

/-- The client's address: from the header `realIp` if the operator named one and
the request has it. -/
def clientIp? (r : Request) (realIp : String) : Option Net.IpAddr :=
  r.remote.bind fun e =>
    if realIp = "" then some e.ip
    else match r.header? realIp with
      | none => some e.ip
      | some value => addressOf value

end Request

end PeerTracker.Http
