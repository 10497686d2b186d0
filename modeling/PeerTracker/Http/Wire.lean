import PeerTracker.Http.Handler

/-!
# Requests and replies on a connection

A request begins with a head, which an empty line ends: the request line, then a
header a line. A connection carries one request; what a body brings along is not
looked at. Every reply says that any page may read it.
-/

namespace PeerTracker.Http

/-- The most octets that a head may have. -/
def headLimit : Nat := 65536

/-- The lines of a text, each without the line end that closes it. -/
def lines : Bytes → List Bytes
  | [] => [[]]
  | 13 :: 10 :: rest => [] :: lines rest
  | b :: rest =>
    match lines rest with
    | [] => [[b]]
    | l :: ls => (b :: l) :: ls

/-- The head in front, once its empty line has arrived. -/
def head? : Bytes → Option Bytes
  | [] => none
  | 13 :: 10 :: 13 :: 10 :: _ => some []
  | b :: rest => (head? rest).map (b :: ·)

def latin (bs : Bytes) : String := String.ofList (bs.map fun b => Char.ofNat b.toNat)

/-- A blank or a tab. -/
def isBlank (b : UInt8) : Bool := b = 32 || b = 9

def trimBlanks (bs : Bytes) : Bytes :=
  ((bs.dropWhile isBlank).reverse.dropWhile isBlank).reverse

/-- A header line, name and value around its first colon. -/
def readHeader? (line : Bytes) : Option (String × Bytes) :=
  match cutAt 58 line with
  | (name, some value) =>
    if name = [] || name.any isBlank then none else some (latin name, trimBlanks value)
  | (_, none) => none

/-- Method and target of a request line. -/
def readRequestLine? (line : Bytes) : Option (String × Bytes) :=
  match splitAt 32 line with
  | [method, target, version] =>
    if method = [] || target = [] || version.take 7 ≠ ascii "HTTP/1." then none
    else some (latin method, target)
  | _ => none

/-- A request from its head. -/
def Request.ofHead? (head : Bytes) (remote : Net.Endpoint) : Option Request := do
  match lines head with
  | [] => none
  | first :: rest =>
    let (method, target) ← readRequestLine? first
    let headers ← rest.mapM readHeader?
    pure { method := method, target := target, headers := headers, remote := some remote }

def phrase (status : Nat) : String :=
  match status with
  | 200 => "OK"
  | 400 => "Bad Request"
  | 404 => "Not Found"
  | 405 => "Method Not Allowed"
  | _ => "Unknown"

/-- The answer to a head that makes no sense. -/
def Reply.badRequest : Reply := ⟨400, none, []⟩

def Reply.encode (r : Reply) : Bytes :=
  let line (name : String) (value : Bytes) : Bytes := ascii name ++ ascii ": " ++ value ++ [13, 10]
  ascii "HTTP/1.1 " ++ Decimal.write r.status ++ ascii " " ++ ascii (phrase r.status) ++ [13, 10]
    ++ line "content-length" (Decimal.write r.body.length)
    ++ (match r.contentType with
      | none => []
      | some kind => line "content-type" (ascii kind))
    ++ line "access-control-allow-origin" (ascii "*") ++ line "connection" (ascii "close")
    ++ [13, 10] ++ r.body

end PeerTracker.Http
