/-!
# TOML documents as values

A table remembers how it came into being, since that decides what may still be
added to it: an inline table is closed, a table with a header of its own has no
second one, and a table made by a dotted key is filled by dotted keys only. Tables
under a double-bracket header form a list of their own.
-/

namespace PeerTracker.Toml

/-- How a table came into being. -/
inductive TableKind where
  /-- Written between braces. -/
  | inline
  /-- By a header of its own; the document itself counts as such. -/
  | defined
  /-- As a step on the way to a header. -/
  | implicit
  /-- As a step on the way to a dotted key. -/
  | dotted
deriving DecidableEq, Repr

/-- Fractions, dates and times are kept as they were written. -/
inductive Value where
  | string (s : String)
  | integer (i : Int)
  | fraction (text : String)
  | moment (text : String)
  | boolean (b : Bool)
  | array (items : List Value)
  | table (kind : TableKind) (entries : List (String × Value))
  | tables (elements : List (List (String × Value)))

abbrev Entries := List (String × Value)

namespace Entries

def get? (es : Entries) (key : String) : Option Value :=
  (es.find? fun e => e.1 = key).map Prod.snd

/-- Replaces the value of a key that is there. -/
def set (es : Entries) (key : String) (v : Value) : Entries :=
  es.map fun e => if e.1 = key then (key, v) else e

end Entries

/-- A change of a table, `none` if it is not allowed. -/
abbrev Change := TableKind → Entries → Option (TableKind × Entries)

/-- Applies a change to the table at the end of a path, making the tables on the
way; `dotted` tells a dotted key's path from a header's. A path leads into the
last of a list of tables. -/
def descend (dotted : Bool) (change : Change) : (path : List String) → Change
  | [], kind, es => change kind es
  | key :: path, kind, es =>
    match es.get? key with
    | none => do
      let (k, sub) ← descend dotted change path (if dotted then .dotted else .implicit) []
      pure (kind, es ++ [(key, .table k sub)])
    | some (.table k sub) =>
      if k = .inline ∨ (dotted ∧ k = .defined) then none
      else do
        let (k, sub) ← descend dotted change path k sub
        pure (kind, es.set key (.table k sub))
    | some (.tables elements) => do
      let (_, sub) ← descend dotted change path .defined (elements.getLastD [])
      pure (kind, es.set key (.tables (elements.dropLast ++ [sub])))
    | some _ => none

/-- Adds a key that is not there yet; a table made by dotted keys takes only
dotted ones, and any other table only plain ones. -/
def addKey (isDotted : Bool) (key : String) (v : Value) : Change := fun kind es =>
  if decide (kind = .dotted) ≠ isDotted then none
  else match es.get? key with
    | some _ => none
    | none => some (kind, es ++ [(key, v)])

/-- A key with a value, under the dotted path before its last part. -/
def addKeyValue (path : List String) (key : String) (v : Value) : Change :=
  descend true (addKey (path ≠ []) key v) path

/-- A header: makes a table, or takes one that so far stood only on the way. -/
def defineTable (key : String) : Change := fun kind es =>
  match es.get? key with
  | none => some (kind, es ++ [(key, .table .defined [])])
  | some (.table .implicit sub) => some (kind, es.set key (.table .defined sub))
  | some _ => none

/-- A double-bracket header: one more table in a list. -/
def pushTable (key : String) : Change := fun kind es =>
  match es.get? key with
  | none => some (kind, es ++ [(key, .tables [[]])])
  | some (.tables elements) => some (kind, es.set key (.tables (elements ++ [[]])))
  | some _ => none

end PeerTracker.Toml
