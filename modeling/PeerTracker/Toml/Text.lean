import PeerTracker.Text.Quoted
import PeerTracker.Toml.Scalar

/-!
# Strings in TOML

Basic strings stand between double quotes and have escapes, literal strings
between single quotes and have none; three quotes let either span lines. The
writer takes the plainest style that needs no escape: basic, literal, basic over
lines, literal over lines; failing those a basic string with escapes.
-/

namespace PeerTracker.Toml

/-! ## Reading

`fuel` exceeds the number of characters left. -/

/-- A control character that has to be escaped. -/
def isControl (c : Char) : Bool := (c.toNat < 0x20 && c != '\t') || c.toNat == 0x7F

/-- A character by `width` hexadecimal digits. -/
def codePoint? (width : Nat) (cs : List Char) : Option (Char × List Char) :=
  let ds := (cs.take width).filterMap (digitValue? 16)
  let n := natOfDigits 16 ds
  if ds.length = width ∧ n.isValidChar then some (Char.ofNat n, cs.drop width) else none

/-- What follows a backslash. -/
def escape? : List Char → Option (Char × List Char)
  | 'b' :: rest => some (Char.ofNat 0x08, rest)
  | 't' :: rest => some ('\t', rest)
  | 'n' :: rest => some ('\n', rest)
  | 'f' :: rest => some (Char.ofNat 0x0C, rest)
  | 'r' :: rest => some ('\r', rest)
  | 'e' :: rest => some (Char.ofNat 0x1B, rest)
  | '"' :: rest => some ('"', rest)
  | '\\' :: rest => some ('\\', rest)
  | 'x' :: rest => codePoint? 2 rest
  | 'u' :: rest => codePoint? 4 rest
  | 'U' :: rest => codePoint? 8 rest
  | _ => none

/-- A basic string after its opening quote. -/
def basic : (fuel : Nat) → List Char → Option (List Char × List Char)
  | 0, _ => none
  | _, [] => none
  | _, '"' :: rest => some ([], rest)
  | fuel + 1, '\\' :: rest => do
    let (c, rest) ← escape? rest
    let (cs, rest) ← basic fuel rest
    pure (c :: cs, rest)
  | fuel + 1, c :: rest =>
    if isControl c then none
    else do
      let (cs, rest) ← basic fuel rest
      pure (c :: cs, rest)

/-- A literal string after its opening quote. -/
def literal : List Char → Option (List Char × List Char)
  | [] => none
  | c :: rest =>
    if c = '\'' then some ([], rest)
    else if isControl c then none
    else do
      let (cs, rest) ← literal rest
      pure (c :: cs, rest)

def isBlank (c : Char) : Bool := c == ' ' || c == '\t'

/-- A line break in front is taken off. -/
def lineBreak? : List Char → Option (List Char)
  | '\n' :: rest => some rest
  | '\r' :: '\n' :: rest => some rest
  | _ => none

/-- A backslash at the end of a line swallows blanks and line breaks up to the
next other character. -/
def skipFold (cs : List Char) : Option (List Char) :=
  (lineBreak? (cs.dropWhile isBlank)).map fun rest =>
    rest.dropWhile fun c => isBlank c || c == '\n' || c == '\r'

/-- At three or more quotes, the up to two that belong to the string and what
follows its end. -/
def closing? (quote : Char) (cs : List Char) : Option (List Char × List Char) :=
  let run := (cs.takeWhile (· == quote)).length
  if 3 ≤ run ∧ run ≤ 5 then some (List.replicate (run - 3) quote, cs.drop run) else none

/-- A basic string over lines, after its opening quotes. -/
def basicLines : (fuel : Nat) → List Char → Option (List Char × List Char)
  | 0, _ => none
  | _, [] => none
  | fuel + 1, c :: rest =>
    match closing? '"' (c :: rest) with
    | some done => some done
    | none =>
      if c = '\\' then
        match skipFold rest with
        | some rest => basicLines fuel rest
        | none => do
          let (x, rest) ← escape? rest
          let (cs, rest) ← basicLines fuel rest
          pure (x :: cs, rest)
      else match lineBreak? (c :: rest) with
        | some rest' => do
          let (cs, rest') ← basicLines fuel rest'
          pure ((if c = '\r' then ['\r', '\n'] else ['\n']) ++ cs, rest')
        | none =>
          if isControl c then none
          else do
            let (cs, rest) ← basicLines fuel rest
            pure (c :: cs, rest)

/-- A literal string over lines, after its opening quotes. -/
def literalLines : (fuel : Nat) → List Char → Option (List Char × List Char)
  | 0, _ => none
  | _, [] => none
  | fuel + 1, c :: rest =>
    match closing? '\'' (c :: rest) with
    | some done => some done
    | none =>
      match lineBreak? (c :: rest) with
      | some rest' => do
        let (cs, rest') ← literalLines fuel rest'
        pure ((if c = '\r' then ['\r', '\n'] else ['\n']) ++ cs, rest')
      | none =>
        if isControl c then none
        else do
          let (cs, rest) ← literalLines fuel rest
          pure (c :: cs, rest)

/-- The first line break after the opening quotes is not part of the string. -/
def skipLineBreak (cs : List Char) : List Char := (lineBreak? cs).getD cs

def finish (r : List Char × List Char) : String × List Char := (String.ofList r.1, r.2)

/-- A string on one line, as keys are. -/
def line? : List Char → Option (String × List Char)
  | '"' :: rest => (basic (rest.length + 1) rest).map finish
  | '\'' :: rest => (literal rest).map finish
  | _ => none

def string? : List Char → Option (String × List Char)
  | '"' :: '"' :: '"' :: rest => (basicLines (rest.length + 1) (skipLineBreak rest)).map finish
  | '\'' :: '\'' :: '\'' :: rest =>
    (literalLines (rest.length + 1) (skipLineBreak rest)).map finish
  | cs => line? cs

/-! ## Writing -/

/-- The longest run of a character. -/
def longestRunOf (c : Char) (cs : List Char) : Nat :=
  (cs.foldl (fun (acc : Nat × Nat) x =>
    if x = c then (max acc.1 (acc.2 + 1), acc.2 + 1) else (acc.1, 0)) (0, 0)).1

/-- A control character other than tab and line feed. -/
def needsEscape (c : Char) : Bool := isControl c && c != '\n'

inductive Style where
  | basic
  | literal
  | basicLines
  | literalLines
deriving DecidableEq, Repr

/-- The plainest style for a text. -/
def style (cs : List Char) : Style :=
  let escapes := cs.any needsEscape
  let backslash := cs.contains '\\'
  let double := longestRunOf '"' cs
  let single := longestRunOf '\'' cs
  let lines := cs.contains '\n'
  if !escapes && !backslash && double = 0 && !lines then .basic
  else if !escapes && single = 0 && !lines then .literal
  else if !escapes && !backslash && double ≤ 2 then .basicLines
  else if !escapes && single ≤ 2 then .literalLines
  else if lines then .basicLines
  else .basic

def upperHexDigit (n : Nat) : Char := if n < 10 then Char.ofNat (48 + n) else Char.ofNat (55 + n)

/-- Four upper-case digits. -/
def fourDigits (n : Nat) : List Char :=
  [upperHexDigit (n / 4096 % 16), upperHexDigit (n / 256 % 16), upperHexDigit (n / 16 % 16),
    upperHexDigit (n % 16)]

/-- A character inside a basic string that is not a quote. -/
def writeChar (lines : Bool) (c : Char) : List Char :=
  if c = Char.ofNat 0x08 then ['\\', 'b']
  else if c = '\t' then ['\\', 't']
  else if c = '\n' then if lines then ['\n'] else ['\\', 'n']
  else if c = Char.ofNat 0x0C then ['\\', 'f']
  else if c = '\r' then ['\\', 'r']
  else if c = '\\' then ['\\', '\\']
  else if isControl c then ['\\', 'u'] ++ fourDigits c.toNat
  else [c]

/-- The inside of a basic string; over lines, up to two quotes in a row stay
plain. -/
def writeBasic (lines : Bool) (quotes : Nat) : List Char → List Char
  | [] => []
  | c :: rest =>
    if c = '"' then
      if lines && quotes < 2 then '"' :: writeBasic lines (quotes + 1) rest
      else '\\' :: '"' :: writeBasic lines 0 rest
    else writeChar lines c ++ writeBasic lines 0 rest

def writeString (s : String) : List Char :=
  let cs := s.toList
  let opening := if cs.contains '\n' then ['\n'] else []
  match style cs with
  | .basic => ['"'] ++ writeBasic false 0 cs ++ ['"']
  | .literal => ['\''] ++ cs ++ ['\'']
  | .basicLines => ['"', '"', '"'] ++ opening ++ writeBasic true 0 cs ++ ['"', '"', '"']
  | .literalLines => ['\'', '\'', '\''] ++ opening ++ cs ++ ['\'', '\'', '\'']

end PeerTracker.Toml
