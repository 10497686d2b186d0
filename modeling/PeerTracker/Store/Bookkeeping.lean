import PeerTracker.State

/-!
# Bookkeeping over all swarms

Besides the counters of each swarm, a tracker keeps totals of complete and
incomplete peers and a count of records per address. `fast` leaves these out.
Only peer records count, provider records do not.
-/

namespace PeerTracker

namespace Stats

/-- The total a peer counts in. -/
def kind (complete : Bool) : Counter := if complete then .seeds else .leeches

/-- A new record. -/
def enter (s : Stats) (complete : Bool) (ip : Net.IpAddr) : Stats :=
  { s.add (kind complete) 1 with addresses := s.addresses.add ip }

/-- A record that is gone. -/
def leave (s : Stats) (complete : Bool) (ip : Net.IpAddr) : Stats :=
  { s.add (kind complete) (-1) with addresses := s.addresses.remove ip }

/-- A record that is reported again. -/
def move (s : Stats) (was complete : Bool) (old new : Net.IpAddr) : Stats :=
  let s' := if was = complete then s else (s.add (kind was) (-1)).add (kind complete) 1
  { s' with addresses := s.addresses.change old new }

/-- Counts a report of a peer that had the record `existing`. -/
def track (s : Stats) (fast : Bool) (existing : Option Peer) (complete : Bool)
    (ip : Net.IpAddr) : Stats :=
  if fast then s
  else match existing with
    | none => s.enter complete ip
    | some p => s.move p.complete complete p.ip ip

end Stats

namespace State

/-- Parks a peer record that left its swarm, and counts it out. -/
def release (fast : Bool) (s : State) (p : Peer) : State :=
  { s with
    stats := if fast then s.stats else s.stats.leave p.complete p.ip
    pools := s.pools.putPeer p }

/-- Parks provider records, which were never counted. -/
def parkAll (s : State) (providers : List Peer) : State :=
  { s with pools := s.pools.putPeers providers }

end State

end PeerTracker
