import PeerTracker.Bytes.Order
import PeerTracker.Table

/-!
# A disk

Files and directories by path. Each change is a step that is made at once: a file
is created empty or emptied, written, synced, or renamed over another one. A step
may also fail, or be the last before a crash; a write that is cut short leaves any
front part of what was to be written.
-/

namespace PeerTracker

/-- Names from the working directory down. -/
abbrev Path := List String

namespace Path

/-- The names between slashes; empty ones and dots stand for nothing. The empty
text names nothing at all, not even the working directory, so it gets a path that
cannot be there. -/
def ofText (text : String) : Path :=
  if text = "" then ["", ""]
  else (text.splitOn "/").filter fun name => name ≠ "" && name ≠ "."

end Path

inductive Node where
  | file (content : Bytes)
  | directory
deriving DecidableEq, Repr

inductive DiskError where
  | notFound
  | notADirectory
  | isADirectory
  /-- Trouble that the disk itself makes. -/
  | broken
deriving DecidableEq, Repr

def DiskError.message : DiskError → String
  | .notFound => "No such file or directory (os error 2)"
  | .notADirectory => "Not a directory (os error 20)"
  | .isADirectory => "Is a directory (os error 21)"
  | .broken => "Input/output error (os error 5)"

structure Disk where
  nodes : Table Path Node := ∅
deriving DecidableEq

namespace Disk

instance : Inhabited Disk := ⟨{}⟩

/-- What is at a path; the working directory is always there. -/
def node? (d : Disk) (p : Path) : Option Node :=
  if p = [] then some .directory else d.nodes.get? p

/-- Whether something can be looked up in the directory `p`. -/
def enter (d : Disk) (p : Path) : Except DiskError Unit :=
  match d.node? p with
  | some .directory => .ok ()
  | some (.file _) => .error .notADirectory
  | none => .error .notFound

def read (d : Disk) (p : Path) : Except DiskError Bytes := do
  d.enter p.dropLast
  match d.node? p with
  | none => throw .notFound
  | some .directory => throw .isADirectory
  | some (.file content) => pure content

def put (d : Disk) (p : Path) (content : Bytes) : Disk :=
  ⟨d.nodes.insert p (.file content)⟩

/-! ## Steps -/

inductive Step where
  /-- Makes an empty file, out of an existing one if there is one. -/
  | create (p : Path)
  | write (p : Path) (content : Bytes)
  | sync (p : Path)
  | rename (old new : Path)
deriving DecidableEq, Repr

def apply (d : Disk) : Step → Except DiskError Disk
  | .create p => do
    d.enter p.dropLast
    match d.node? p with
    | some .directory => throw .isADirectory
    | _ => pure (d.put p [])
  | .write p content => pure (d.put p content)
  | .sync _ => pure d
  | .rename old new => do
    let content ← d.read old
    match d.node? new with
    | some .directory => throw .isADirectory
    | _ => pure (Disk.put ⟨d.nodes.erase old⟩ new content)

/-- What a step that was not completed leaves; `written` octets of a write have
got through. -/
def interrupted (d : Disk) (written : Nat) : Step → Disk
  | .write p content => d.put p (content.take written)
  | _ => d

/-- What becomes of a step. -/
inductive Luck where
  | completes
  | fails (written : Nat)
  /-- The machine stops in the middle of it. -/
  | crashesDuring (written : Nat)
  | crashesAfter
deriving DecidableEq, Repr

/-- How a run of steps ended. -/
inductive Ending where
  | finished
  | failed (e : DiskError)
  | crashed
deriving DecidableEq, Repr

/-- Makes steps one after the other, each with its luck, up to the first that
does not complete. -/
def run : List (Step × Luck) → Disk → Ending × Disk
  | [], d => (.finished, d)
  | (step, luck) :: rest, d =>
    match luck with
    | .fails written => (.failed .broken, d.interrupted written step)
    | .crashesDuring written => (.crashed, d.interrupted written step)
    | .crashesAfter =>
      match d.apply step with
      | .error _ => (.crashed, d)
      | .ok d' => (.crashed, d')
    | .completes =>
      match d.apply step with
      | .error e => (.failed e, d)
      | .ok d' => run rest d'

/-- Makes steps on a disk without trouble of its own. -/
def perform (steps : List Step) (d : Disk) : Except DiskError Unit × Disk :=
  match run (steps.map (·, .completes)) d with
  | (.finished, d) => (.ok (), d)
  | (.failed e, d) => (.error e, d)
  | (.crashed, d) => (.error .broken, d)

/-- Creates a file with this content. -/
def save (d : Disk) (p : Path) (content : Bytes) : Except DiskError Unit × Disk :=
  perform [.create p, .write p content] d

end Disk

end PeerTracker
