import PeerTracker.Toml.Value

/-!
# Numbers, booleans, dates and times

A plain word is a boolean, a number, or a date or time. Underscores may stand
between digits. Decimal integers have no leading zeros; the other bases have a
marker and no sign.
-/

namespace PeerTracker.Toml

def isDigit (c : Char) : Bool := '0' ≤ c && c ≤ '9'

def digitValue? (radix : Nat) (c : Char) : Option Nat :=
  let v :=
    if isDigit c then some (c.toNat - 48)
    else if 'a' ≤ c && c ≤ 'f' then some (c.toNat - 87)
    else if 'A' ≤ c && c ≤ 'F' then some (c.toNat - 55)
    else none
  v.filter (· < radix)

/-- The digits of a group in which single underscores stand between digits. -/
def digits? (radix : Nat) : List Char → Option (List Nat)
  | [] => none
  | [c] => (digitValue? radix c).map fun d => [d]
  | c :: '_' :: rest => do pure ((← digitValue? radix c) :: (← digits? radix rest))
  | c :: rest => do pure ((← digitValue? radix c) :: (← digits? radix rest))

def natOfDigits (radix : Nat) (ds : List Nat) : Nat := ds.foldl (fun n d => n * radix + d) 0

/-- A decimal group without leading zeros. -/
def plainDecimal? (cs : List Char) : Option Nat := do
  let ds ← digits? 10 cs
  if 1 < ds.length ∧ ds.head? = some 0 then none else pure (natOfDigits 10 ds)

/-- A sign in front, and the rest. -/
def splitSign : List Char → Bool × List Char
  | '-' :: rest => (true, rest)
  | '+' :: rest => (false, rest)
  | cs => (false, cs)

/-- Integers of up to 128 bits, signed or not. -/
def integer? (cs : List Char) : Option Int :=
  let n : Option Int := match cs with
    | '0' :: 'x' :: rest => (digits? 16 rest).map fun ds => (natOfDigits 16 ds : Int)
    | '0' :: 'o' :: rest => (digits? 8 rest).map fun ds => (natOfDigits 8 ds : Int)
    | '0' :: 'b' :: rest => (digits? 2 rest).map fun ds => (natOfDigits 2 ds : Int)
    | _ =>
      let (negative, rest) := splitSign cs
      (plainDecimal? rest).map fun n => if negative then -(n : Int) else n
  n.filter fun i => -170141183460469231731687303715884105728 ≤ i ∧ i < 340282366920938463463374607431768211456

/-- What stands before the first `c`, and after it. -/
def cut (p : Char → Bool) (cs : List Char) : List Char × Option (List Char) :=
  match cs.dropWhile fun c => !p c with
  | [] => (cs, none)
  | _ :: rest => (cs.takeWhile fun c => !p c, some rest)

def isExponent? (cs : List Char) : Bool := (digits? 10 (splitSign cs).2).isSome

/-- A fraction, an exponent, or both; or one of the two special words. -/
def isFraction (cs : List Char) : Bool :=
  let body := (splitSign cs).2
  if body = ['i', 'n', 'f'] ∨ body = ['n', 'a', 'n'] then true
  else
    let (mantissa, exponent) := cut (fun c => c == 'e' || c == 'E') body
    let (whole, part) := cut (· == '.') mantissa
    (plainDecimal? whole).isSome && part.all (fun p => (digits? 10 p).isSome)
      && exponent.all isExponent? && (part.isSome || exponent.isSome)

/-- A number of exactly `width` digits up to `limit`, and the rest. -/
def field? (width limit : Nat) (cs : List Char) : Option (Nat × List Char) :=
  let ds := (cs.take width).filterMap (digitValue? 10)
  let n := natOfDigits 10 ds
  if ds.length = width ∧ n ≤ limit then some (n, cs.drop width) else none

def expect (c : Char) : List Char → Option (List Char)
  | [] => none
  | x :: rest => if x = c then some rest else none

def daysInMonth (year month : Nat) : Nat :=
  if month = 2 then
    if year % 4 = 0 ∧ (year % 100 ≠ 0 ∨ year % 400 = 0) then 29 else 28
  else if month = 4 ∨ month = 6 ∨ month = 9 ∨ month = 11 then 30
  else 31

/-- A date in front, and the rest. -/
def date? (cs : List Char) : Option (List Char) := do
  let (year, cs) ← field? 4 9999 cs
  let cs ← expect '-' cs
  let (month, cs) ← field? 2 12 cs
  let cs ← expect '-' cs
  let (day, cs) ← field? 2 31 cs
  if 1 ≤ month ∧ 1 ≤ day ∧ day ≤ daysInMonth year month then pure cs else none

/-- Seconds, which may have a fraction, after their colon. -/
def seconds? (cs : List Char) : Option (List Char) := do
  let (_, cs) ← field? 2 60 cs
  match cs with
  | '.' :: rest =>
    if (rest.takeWhile isDigit).isEmpty then none else pure (rest.dropWhile isDigit)
  | _ => pure cs

/-- A time of day in front, seconds being optional, and the rest. -/
def time? (cs : List Char) : Option (List Char) := do
  let (_, cs) ← field? 2 23 cs
  let cs ← expect ':' cs
  let (_, cs) ← field? 2 59 cs
  match cs with
  | ':' :: rest => seconds? rest
  | _ => pure cs

/-- Nothing more, or an offset from universal time. -/
def isOffset : List Char → Bool
  | [] => true
  | [c] => c == 'Z' || c == 'z'
  | c :: rest =>
    (c == '+' || c == '-') && (do
      let (_, cs) ← field? 2 23 rest
      let cs ← expect ':' cs
      let (_, cs) ← field? 2 59 cs
      pure (cs.isEmpty)) == some true

/-- A date, a time, or both with an offset. -/
def isMoment (cs : List Char) : Bool :=
  match date? cs with
  | some [] => true
  | some (c :: rest) =>
    (c == 'T' || c == 't' || c == ' ') && (time? rest).any isOffset
  | none => time? cs == some []

/-- The value of a plain word. -/
def scalar? (cs : List Char) : Option Value :=
  let text := String.ofList cs
  if text = "true" then some (.boolean true)
  else if text = "false" then some (.boolean false)
  else match integer? cs with
    | some i => some (.integer i)
    | none =>
      if isFraction cs then some (.fraction text)
      else if isMoment cs then some (.moment text)
      else none

end PeerTracker.Toml
