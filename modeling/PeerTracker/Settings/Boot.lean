import PeerTracker.Disk
import PeerTracker.Settings.Document

/-!
# Finding the settings

The settings file is the one that the command line names, else the one that the
environment names, else `config.toml`. Settings that cannot be read are replaced
by a default file only if that was asked for, and even then the program stops, so
that an operator looks at them first.

What is said and decided depends on what reading the file gave, and, where a
default file is written, on what writing gave. `Settings.boot` puts this together
over a disk.
-/

namespace PeerTracker.Settings

def defaultPath : String := "config.toml"

/-- The file to read; an empty value of the environment counts as unset. -/
def chosenPath (argument environment : Option String) : String :=
  (argument.or (environment.filter (· ≠ ""))).getD defaultPath

/-- The default settings on a machine that runs `threads` threads at once. -/
def initial (threads : UInt64) : Settings :=
  { udp := [{ udpThreads := threads, workerThreads := threads }],
    http := [{ threads := threads }] }

inductive BootError where
  | unreadable
  | created
  | notCreated
  | invalid (cause : SettingsError)
deriving DecidableEq, Repr

def BootError.message : BootError → String
  | unreadable => "will not create config file automatically"
  | created => "created config file"
  | notCreated => "could not create config file"
  | invalid cause => cause.message

/-- What a start comes to, with the lines it says on either stream. -/
structure Boot where
  result : Except BootError Settings
  out : List String := []
  err : List String := []

/-- Settings from what reading their file gave. -/
def ofReading (reading : Except String Bytes) : Except String Settings := do
  let content ← reading
  match ofBytes? content with
  | none => throw "not a valid settings document"
  | some s => pure s

/-- A start with settings that were read. -/
def accept (s : Settings) : Boot :=
  { result := match s.check with
      | .ok _ => .ok s
      | .error e => .error (.invalid e),
    out := ["[VALIDATE] Validating configuration..."] }

def complaint (path cause : String) : List String :=
  ["No config file found or corrupt at " ++ path ++ ".", "[ERROR] " ++ cause]

/-- A start without settings where no default file is wanted. -/
def decline (path cause : String) : Boot :=
  { result := .error .unreadable,
    err := complaint path cause ++ ["You can either create your own " ++ path
      ++ " file, or start this app using '--create-config' as parameter."] }

/-- A start without settings after writing a default file. -/
def afterWriting (path cause : String) (writing : Except String Unit) : Boot :=
  let said := complaint path cause ++ ["Creating config file.."]
  match writing with
  | .ok _ =>
    { result := .error .created,
      err := said ++ ["Please edit " ++ path ++ " and restart, exiting now..."] }
  | .error e =>
    { result := .error .notCreated,
      err := said ++ [path ++ " could not be created, check permissions...", e] }

/-- Starts from the file at a path; `creating` allows to replace settings that
cannot be read. -/
def boot (defaults : Settings) (path : String) (creating : Bool) (d : Disk) : Boot × Disk :=
  match ofReading ((d.read (.ofText path)).mapError DiskError.message) with
  | .ok s => (accept s, d)
  | .error cause =>
    if creating then
      let (writing, d) := d.save (.ofText path) (Utf8.ofString defaults.toText)
      (afterWriting path cause (writing.mapError DiskError.message), d)
    else (decline path cause, d)

end PeerTracker.Settings
