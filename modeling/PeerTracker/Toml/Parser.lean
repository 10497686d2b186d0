import PeerTracker.Toml.Text

/-!
# Reading TOML

A document is a row of lines: key-value pairs and headers. Pairs go into the table
of the last header. Arrays and inline tables may span lines, hold comments, and
end in a comma; they nest at most `depthLimit` deep.
-/

namespace PeerTracker.Toml

def depthLimit : Nat := 80

/-! ## Blanks and keys -/

def skipBlank (cs : List Char) : List Char := cs.dropWhile isBlank

/-- Characters of a comment. -/
def commentRest (cs : List Char) : Option (List Char) :=
  let rest := cs.dropWhile fun c => !isControl c
  match rest with
  | [] => some []
  | c :: more =>
    if c = '\n' then some (c :: more)
    else if c = '\r' ∧ more.head? = some '\n' then some (c :: more)
    else none

/-- Nothing more on this line but a comment; gives what follows the line. -/
def endLine? (cs : List Char) : Option (List Char) :=
  match skipBlank cs with
  | [] => some []
  | '#' :: rest =>
    (commentRest rest).bind fun rest => if rest.isEmpty then some [] else lineBreak? rest
  | rest => lineBreak? rest

/-- Blanks, line breaks and comments; `fuel` exceeds the characters left. -/
def skipLines : (fuel : Nat) → List Char → Option (List Char)
  | 0, _ => none
  | fuel + 1, cs =>
    match skipBlank cs with
    | '#' :: rest => (commentRest rest).bind (skipLines fuel)
    | rest =>
      match lineBreak? rest with
      | some rest => skipLines fuel rest
      | none => some rest

def skipSpace (cs : List Char) : Option (List Char) := skipLines (cs.length + 1) cs

def isBareKeyChar (c : Char) : Bool :=
  isDigit c || ('a' ≤ c && c ≤ 'z') || ('A' ≤ c && c ≤ 'Z') || c == '_' || c == '-'

/-- One part of a key. -/
def simpleKey? (cs : List Char) : Option (String × List Char) :=
  match line? cs with
  | some r => some r
  | none =>
    let word := cs.takeWhile isBareKeyChar
    if word.isEmpty then none else some (String.ofList word, cs.dropWhile isBareKeyChar)

/-- A dotted key: its parts, at least one, and what follows the blanks after
it. -/
def key? : (fuel : Nat) → List Char → Option (List String × List Char)
  | 0, _ => none
  | fuel + 1, cs => do
    let (part, rest) ← simpleKey? (skipBlank cs)
    match skipBlank rest with
    | '.' :: rest => do
      let (parts, rest) ← key? fuel rest
      pure (part :: parts, rest)
    | rest => pure ([part], rest)

def dottedKey? (cs : List Char) : Option (List String × List Char) := key? (cs.length + 1) cs

/-! ## Values -/

abbrev Reader := List Char → Option (Value × List Char)

/-- The characters of a plain word. -/
def isWordChar (c : Char) : Bool := isBareKeyChar c || c == '+' || c == '.' || c == ':'

/-- A date and a time may have one blank between them. -/
def word (cs : List Char) : List Char × List Char :=
  let front := cs.takeWhile isWordChar
  let rest := cs.dropWhile isWordChar
  match rest with
  | ' ' :: d :: _ =>
    if isDigit d && date? front == some [] then
      (front ++ [' '] ++ (rest.drop 1).takeWhile isWordChar, (rest.drop 1).dropWhile isWordChar)
    else (front, rest)
  | _ => (front, rest)

/-- The items of an array and its end. -/
def items? (value : Reader) : (fuel : Nat) → List Char → Option (List Value × List Char)
  | 0, _ => none
  | fuel + 1, cs => do
    let cs ← skipSpace cs
    match cs with
    | ']' :: rest => pure ([], rest)
    | _ => do
      let (v, cs) ← value cs
      let cs ← skipSpace cs
      match cs with
      | ',' :: rest => do
        let (vs, rest) ← items? value fuel rest
        pure (v :: vs, rest)
      | ']' :: rest => pure ([v], rest)
      | _ => none

/-- A key and its value. -/
def pair? (value : Reader) (cs : List Char) : Option ((List String × Value) × List Char) := do
  let (key, cs) ← dottedKey? cs
  let cs ← expect '=' cs
  let (v, cs) ← value (skipBlank cs)
  pure ((key, v), cs)

/-- Adds a pair to a table. -/
def addPair (key : List String) (v : Value) : Change :=
  addKeyValue key.dropLast (key.getLastD "") v

/-- The pairs of an inline table and its end. -/
def pairs? (value : Reader) : (fuel : Nat) → Entries → List Char → Option (Entries × List Char)
  | 0, _, _ => none
  | fuel + 1, es, cs => do
    let cs ← skipSpace cs
    match cs with
    | '}' :: rest => pure (es, rest)
    | _ => do
      let ((key, v), cs) ← pair? value cs
      let (_, es) ← addPair key v .inline es
      let cs ← skipSpace cs
      match cs with
      | ',' :: rest => pairs? value fuel es rest
      | '}' :: rest => pure (es, rest)
      | _ => none

/-- A value, its containers nesting at most `depth` deep. -/
def value? : (depth : Nat) → Reader
  | depth, cs =>
    match cs with
    | '"' :: _ => (string? cs).map fun r => (.string r.1, r.2)
    | '\'' :: _ => (string? cs).map fun r => (.string r.1, r.2)
    | '[' :: rest =>
      match depth with
      | 0 => none
      | d + 1 => (items? (value? d) (rest.length + 1) rest).map fun r => (.array r.1, r.2)
    | '{' :: rest =>
      match depth with
      | 0 => none
      | d + 1 =>
        (pairs? (value? d) (rest.length + 1) [] rest).map fun r => (.table .inline r.1, r.2)
    | _ =>
      let (w, rest) := word cs
      (scalar? w).map fun v => (v, rest)

/-! ## Documents -/

/-- The document so far and the path of the last header. -/
structure Progress where
  root : Entries := []
  here : List String := []

/-- Changes the table at a path of the document. -/
def Progress.change (p : Progress) (path : List String) (c : Change) : Option Entries :=
  (descend false c path .defined p.root).map Prod.snd

/-- A header with its brackets off. -/
def header? (p : Progress) (list : Bool) (cs : List Char) : Option (Progress × List Char) := do
  let (key, cs) ← dottedKey? cs
  let cs ← expect ']' cs
  let cs ← if list then expect ']' cs else pure cs
  let name := key.getLastD ""
  let root ← p.change key.dropLast (if list then pushTable name else defineTable name)
  pure (⟨root, key⟩, cs)

/-- One header or pair. -/
def statement? (p : Progress) (cs : List Char) : Option (Progress × List Char) :=
  match cs with
  | '[' :: '[' :: rest => header? p true rest
  | '[' :: rest => header? p false rest
  | _ => do
    let ((key, v), rest) ← pair? (value? depthLimit) cs
    let root ← p.change p.here (addPair key v)
    pure ({ p with root := root }, rest)

/-- All lines; `fuel` exceeds the characters left. -/
def statements? : (fuel : Nat) → Progress → List Char → Option Progress
  | 0, _, _ => none
  | fuel + 1, p, cs => do
    let cs ← skipSpace cs
    if cs.isEmpty then pure p
    else
      let (p, cs) ← statement? p cs
      let cs ← endLine? cs
      statements? fuel p cs

/-- The entries of a document; a byte order mark in front is passed over. -/
def parse? (text : List Char) : Option Entries :=
  let text := match text with
    | c :: rest => if c = Char.ofNat 0xFEFF then rest else text
    | [] => []
  (statements? (text.length + 1) {} text).map Progress.root

end PeerTracker.Toml
