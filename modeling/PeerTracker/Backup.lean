import PeerTracker.Disk
import PeerTracker.Settings
import PeerTracker.Store.Persistence

/-!
# Backups

A snapshot is kept in one file. It is written beside that file and renamed over
it, so the file always holds a whole snapshot. With backups off nothing is kept,
and nothing is found.
-/

namespace PeerTracker

/-- Where snapshots go. -/
inductive Backup where
  | file (path : String)
  | off
deriving DecidableEq, Repr

namespace Backup

inductive Error where
  | disk (cause : DiskError)
  | snapshot (cause : Snapshot.Error)
deriving DecidableEq, Repr

/-- A failure to read or write a snapshot. -/
def ioMessage (cause : String) : String := "snapshot io: " ++ cause

/-- What a codec has to say of a snapshot that it cannot read is left out. -/
def Error.message : Error → String
  | disk cause => ioMessage cause.message
  | snapshot (.compression _) => "snapshot decompress"
  | snapshot .decode => "snapshot decode"

def ofSettings (b : BackupSettings) : Backup := if b.enabled then file b.path else off

def describe : Backup → String
  | file path => path
  | off => "disabled"

/-- The file beside `target` in which a snapshot is written. -/
def temporary (target : Path) : Path :=
  target.dropLast ++ [target.getLastD "" ++ ".tmp"]

/-- How a snapshot gets onto the disk. -/
def steps (target : Path) (content : Bytes) : List Disk.Step :=
  [.create (temporary target), .write (temporary target) content, .sync (temporary target),
    .rename (temporary target) target]

def save (b : Backup) (content : Bytes) (d : Disk) : Except DiskError Unit × Disk :=
  match b with
  | file path => Disk.perform (steps (.ofText path) content) d
  | off => (.ok (), d)

/-- The stored snapshot, if there is one. -/
def load (b : Backup) (d : Disk) : Except DiskError (Option Bytes) :=
  match b with
  | off => .ok none
  | file path =>
    match d.read (.ofText path) with
    | .ok content => .ok (some content)
    | .error .notFound => .ok none
    | .error e => .error e

/-- Stores a snapshot of the tracker; tells its size. The size is that of a block of literals, as
`Lz4.compress` writes it: a compressor that finds copies stores less. -/
def saveState (b : Backup) (s : State) (d : Disk) : Except DiskError Nat × Disk :=
  let content := Snapshot.encode (Store.snapshot s)
  match b.save content d with
  | (.ok _, d) => (.ok content.length, d)
  | (.error e, d) => (.error e, d)

/-- Loads the stored snapshot into the tracker; tells how many peers and swarms
it held. -/
def restoreState (b : Backup) (rules : StoreRules) (d : Disk) (s : State) :
    Except Error (Nat × Nat) × State :=
  match b.load d with
  | .error e => (.error (.disk e), s)
  | .ok none => (.ok (0, 0), s)
  | .ok (some content) =>
    match Store.restore rules s content with
    | (.error e, s) => (.error (.snapshot e), s)
    | (.ok loaded, s) => (.ok loaded, s)

end Backup

end PeerTracker
