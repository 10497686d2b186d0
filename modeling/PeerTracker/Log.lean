import PeerTracker.Settings

/-!
# Logging

A log line tells the time, the severity in colour, the part of the program that
speaks, and its message. The settings name the least severe kind that is shown.
-/

namespace PeerTracker.Log

inductive Severity where
  | error
  | warn
  | info
  | debug
  | trace
deriving DecidableEq, Repr

namespace Severity

/-- Greater for the less severe. -/
def rank : Severity → Nat
  | error => 1
  | warn => 2
  | info => 3
  | debug => 4
  | trace => 5

def name : Severity → String
  | error => "ERROR"
  | warn => "WARN"
  | info => "INFO"
  | debug => "DEBUG"
  | trace => "TRACE"

/-- The terminal's number of its colour. -/
def colour : Severity → Nat
  | error => 31
  | warn => 33
  | info => 32
  | debug => 35
  | trace => 36

end Severity

/-- What is shown: nothing, or all that is at least this severe. -/
abbrev Threshold := Option Severity

namespace Threshold

def ofLevel? (level : String) : Option Threshold :=
  if level = "off" then some none
  else if level = "trace" then some (some .trace)
  else if level = "debug" then some (some .debug)
  else if level = "info" then some (some .info)
  else if level = "warn" then some (some .warn)
  else if level = "error" then some (some .error)
  else none

def parse (level : String) : Except SettingsError Threshold :=
  match ofLevel? level with
  | some t => .ok t
  | none => .error (.unknownLogLevel level)

def name : Threshold → String
  | none => "OFF"
  | some s => s.name

def shows (t : Threshold) (s : Severity) : Bool := t.any fun least => s.rank ≤ least.rank

end Threshold

/-- Sets logging up, which is done once; a second time fails, after the level has
been looked at. -/
def setUp (installed : Option Threshold) (level : String) : Except SettingsError Threshold := do
  let t ← Threshold.parse level
  match installed with
  | none => pure t
  | some _ => throw .loggingAlreadySet

/-! ## Lines -/

/-- `n` in at least `width` digits. -/
def padded (width n : Nat) : String :=
  let digits := toString n
  String.ofList (List.replicate (width - digits.length) '0') ++ digits

/-- Year, month and day of the `days`-th day after 1970-01-01, by eras of 400
years that begin in March. -/
def civil (days : Nat) : Nat × Nat × Nat :=
  let z := days + 719468
  let ofEra := z % 146097
  let year := (ofEra - ofEra / 1460 + ofEra / 36524 - ofEra / 146096) / 365
  let ofYear := ofEra - (365 * year + year / 4 - year / 100)
  let month := (5 * ofYear + 2) / 153
  let day := ofYear - (153 * month + 2) / 5 + 1
  let month := if month < 10 then month + 3 else month - 9
  (year + z / 146097 * 400 + (if month ≤ 2 then 1 else 0), month, day)

/-- Nanoseconds in a second. -/
def perSecond : Nat := 1000000000

/-- The time so many nanoseconds after the epoch. -/
def stamp (nanoseconds : Nat) : String :=
  let seconds := nanoseconds / perSecond
  let (year, month, day) := civil (seconds / 86400)
  padded 4 year ++ "-" ++ padded 2 month ++ "-" ++ padded 2 day ++ " "
    ++ padded 2 (seconds / 3600 % 24) ++ ":" ++ padded 2 (seconds / 60 % 60) ++ ":"
    ++ padded 2 (seconds % 60) ++ "." ++ padded 9 (nanoseconds % perSecond)

/-- The name of a severity, as wide as the widest. -/
def column (s : Severity) : String :=
  s.name ++ String.ofList (List.replicate (5 - s.name.length) ' ')

/-- What follows the time in a line. -/
def remark (s : Severity) (target message : String) : String :=
  " [\x1b[" ++ toString s.colour ++ "m" ++ column s ++ "\x1b[0m][" ++ target ++ "] " ++ message
    ++ "\n"

def line (nanoseconds : Nat) (s : Severity) (target message : String) : String :=
  stamp nanoseconds ++ remark s target message

/-- What is to be logged. -/
structure Entry where
  severity : Severity
  /-- The part of the program that speaks. -/
  target : String
  message : String
deriving DecidableEq, Repr

end PeerTracker.Log
