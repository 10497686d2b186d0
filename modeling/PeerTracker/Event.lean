import PeerTracker.Bytes.BigEndian

/-!
# Announce events

What a peer announces beside its presence: nothing, a finished download, a start
or a stop. Datagrams carry a number and query strings a word; anything unknown
reads as nothing.
-/

namespace PeerTracker

inductive Event where
  | none
  | completed
  | started
  | stopped
deriving DecidableEq, Repr, Inhabited

namespace Event

def code : Event → Int32
  | none => 0
  | completed => 1
  | started => 2
  | stopped => 3

def ofCode (n : Int32) : Event :=
  if n = 1 then completed
  else if n = 2 then started
  else if n = 3 then stopped
  else none

def ofWord (word : Bytes) : Event :=
  if word = ascii "completed" then completed
  else if word = ascii "started" then started
  else if word = ascii "stopped" then stopped
  else none

def name : Event → String
  | none => "None"
  | completed => "Completed"
  | started => "Started"
  | stopped => "Stopped"

theorem ofCode_code (e : Event) : ofCode e.code = e := by
  cases e <;> decide

end Event

end PeerTracker
