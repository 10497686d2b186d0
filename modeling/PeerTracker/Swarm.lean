import PeerTracker.Peer
import PeerTracker.Table

/-!
# Swarms

The peers of one torrent by id, the baseline providers among the endpoints that
announced it, and two counters: complete and incomplete peers. Every change of
the peers goes with a change of the counters, so that they stay a count.
-/

namespace PeerTracker

structure Swarm where
  peers : Table PeerId Peer := ∅
  providers : Table PeerId Peer := ∅
  complete : UInt32 := 0
  incomplete : UInt32 := 0
  /-- Set when the swarm leaves the store. -/
  retired : Bool := false
deriving Inhabited, DecidableEq

namespace Swarm

instance : EmptyCollection Swarm := ⟨{}⟩

/-- Counts one more peer. -/
def countNew (w : Swarm) (complete : Bool) : Swarm :=
  if complete then { w with complete := w.complete + 1 }
  else { w with incomplete := w.incomplete + 1 }

/-- Counts one peer less. -/
def countGone (w : Swarm) (complete : Bool) : Swarm :=
  if complete then { w with complete := w.complete - 1 }
  else { w with incomplete := w.incomplete - 1 }

/-- Counts a peer over from one kind to the other. -/
def transition (w : Swarm) (was now : Bool) : Swarm :=
  match was, now with
  | false, true => { w with incomplete := w.incomplete - 1, complete := w.complete + 1 }
  | true, false => { w with complete := w.complete - 1, incomplete := w.incomplete + 1 }
  | _, _ => w

/-- The removed record, if the peer was there, and the swarm without it. -/
def remove (w : Swarm) (id : PeerId) : Option Peer × Swarm :=
  match w.peers.get? id with
  | none => (none, w)
  | some p => (some p, { w.countGone p.complete with peers := w.peers.erase id })

/-- Removes peers one after the other; the records that were there, and the swarm
without them. -/
def removeAll (w : Swarm) : List PeerId → List Peer × Swarm
  | [] => ([], w)
  | id :: ids =>
    let (p, w) := w.remove id
    let (ps, w) := w.removeAll ids
    (p.toList ++ ps, w)

end Swarm

end PeerTracker
