import PeerTracker.Proofs.Parking
import PeerTracker.Proofs.Recounts

/-!
# Records, one by one

What a command makes of the record of one peer on one hash. Everything a new record
starts from is blank: a parked one was reset (`Pools.Clean`), so nothing of the peer
that had it before comes back.
-/

namespace PeerTracker

/-! ## Parked records -/

/-- Parked records remember nobody. -/
def Pools.Clean (p : Pools) : Prop := ∀ x ∈ p.peers.idle, x = .blank

namespace Pools

theorem Clean.getPeer {p : Pools} (h : p.Clean) :
    p.getPeer.1 = .blank ∧ p.getPeer.2.Clean :=
  Pool.get_induction (P := (· = Peer.blank)) rfl h

theorem peerStable_clean : PeerStable Clean where
  get := fun _ h => h.getPeer.2
  put := fun _ _ h => Pool.put_induction (P := (· = Peer.blank)) rfl h

end Pools

theorem Store.record_fst {pools : Pools} (h : pools.Clean) (t : Table PeerId Peer) (id : PeerId) :
    (record t id pools).1 = (t.get? id).getD .blank := by
  unfold record
  cases t.get? id with
  | none => exact h.getPeer.1
  | some p => rfl

/-! ## One record -/

namespace State

/-- The main record of a peer on a hash. -/
def record? (s : State) (hash : InfoHash) (id : PeerId) : Option Peer :=
  (s.swarm? hash).bind fun w => w.peers.get? id

/-- All main records that the store has of a peer on a hash, wherever they stand. -/
def recordsOf (s : State) (hash : InfoHash) (id : PeerId) : List Peer :=
  (s.swarms.entries.filter fun e => e.1 = hash).flatMap fun e =>
    (e.2.peers.entries.filter fun r => r.1 = id).map Prod.snd

/-- A store never has two main records of a peer on a hash. -/
theorem recordsOf_eq (s : State) (hash : InfoHash) (id : PeerId) :
    s.recordsOf hash id = (s.record? hash id).toList := by
  have hflat : s.recordsOf hash id =
      ((s.swarms.entries.filter fun e => e.1 = hash).map Prod.snd).flatMap fun w =>
        (w.peers.entries.filter fun r => r.1 = id).map Prod.snd := by
    rw [List.flatMap_map]
    rfl
  rw [hflat, Table.filter_key, record?, swarm?]
  cases s.swarms.get? hash with
  | none => rfl
  | some w =>
      show List.flatMap _ [w] = _
      rw [List.flatMap_singleton, Table.filter_key]
      rfl

theorem isSome_record?_swarm? {s : State} {hash : InfoHash} {id : PeerId}
    (h : (s.record? hash id).isSome) : (s.swarm? hash).isSome := by
  cases hw : s.swarm? hash with
  | none => simp [record?, hw] at h
  | some w => rfl

end State

namespace Store

variable (rules : StoreRules) {s : State}

theorem openSwarm_peers (hs : s.Sound) (hash : InfoHash) (id : PeerId) :
    (openSwarm s hash).peers.get? id = s.record? hash id := by
  cases h : s.swarm? hash with
  | none =>
      rw [openSwarm_of_none h, State.record?, h]
      rfl
  | some w =>
      rw [openSwarm_eq h (hs hash w h).live, State.record?, h]
      rfl

/-- A save is judged by the record that it finds. -/
theorem save_fst (hs : s.Sound) (hclean : s.pools.Clean) (hash : InfoHash) (id : PeerId)
    (u : Update) :
    (save rules s hash id u).1 =
      ((s.record? hash id).getD .blank).isBadActor u rules.minLeechers := by
  show (record (openSwarm s hash).peers id s.pools).1.isBadActor u _ = _
  rw [record_fst hclean, openSwarm_peers hs]

/-- A save writes one record: over the peer's own, or over a blank one. -/
theorem record?_save (hs : s.Sound) (hclean : s.pools.Clean) (hash : InfoHash) (id : PeerId)
    (u : Update) (h : InfoHash) (i : PeerId) :
    ∃ n, (save rules s hash id u).2.record? h i =
      if h = hash ∧ i = id then
        some { ((s.record? hash id).getD .blank).apply u with leechersLastTime := n }
      else s.record? h i := by
  obtain ⟨t, ht⟩ := save_swarms rules s hash id u
  refine ⟨(recount (openSwarm s hash) id u.complete).incomplete, ?_⟩
  rw [State.record?, State.swarm?, ht, Table.get?_insert]
  by_cases hh : h = hash
  · -- in the swarm that is opened, where other peers keep their records
    rw [if_pos hh]
    show ((openSwarm s hash).peers.insert id _).get? i = _
    rw [Table.get?_insert, openSwarm_peers hs, record_fst hclean, openSwarm_peers hs]
    by_cases hi : i = id
    · rw [if_pos hi, if_pos ⟨hh, hi⟩]
    · rw [if_neg hi, if_neg (fun e => hi e.2), hh]
  · rw [if_neg hh, if_neg (fun e => hh e.1)]
    rfl

theorem isSome_swarm?_save (hash : InfoHash) (id : PeerId) (u : Update) (h : InfoHash) :
    ((save rules s hash id u).2.swarm? h).isSome ↔ h = hash ∨ (s.swarm? h).isSome := by
  obtain ⟨t, ht⟩ := save_swarms rules s hash id u
  rw [State.swarm?, ht, Table.get?_insert]
  by_cases hh : h = hash
  · simp [hh]
  · simp [hh, State.swarm?]

theorem record?_drop (hash : InfoHash) (id : PeerId) (provider : Bool) (h : InfoHash)
    (i : PeerId) :
    (drop rules s hash id provider).record? h i =
      if h = hash ∧ i = id then none else s.record? h i := by
  rw [State.record?, swarm?_drop]
  by_cases hh : h = hash
  · rw [if_pos hh, State.record?, hh]
    cases s.swarm? hash with
    | none => simp
    | some w =>
        show (Swarm.remove _ id).2.peers.get? i = _
        rw [Swarm.remove_peers, Table.get?_erase]
        simp
  · rw [if_neg hh, if_neg (fun e => hh e.1)]
    rfl

/-- A drop neither creates a swarm nor removes one. -/
theorem isSome_swarm?_drop (hash : InfoHash) (id : PeerId) (provider : Bool) (h : InfoHash) :
    ((drop rules s hash id provider).swarm? h).isSome = (s.swarm? h).isSome := by
  rw [swarm?_drop]
  by_cases hh : h = hash
  · rw [if_pos hh, Option.isSome_map, hh]
  · rw [if_neg hh]

theorem record?_trim (now timeout : Int64) (h : InfoHash) (i : PeerId) :
    (trim rules s now timeout).2.record? h i =
      (s.record? h i).filter fun p => !p.isExpired now timeout := by
  rw [State.record?, State.record?, swarm?_trim]
  cases hw : s.swarm? h with
  | none => rfl
  | some w =>
      show ((trimmed now timeout w).bind fun w => w.peers.get? i) = (w.peers.get? i).filter _
      rw [← Swarm.get?_expire]
      cases htrim : trimmed now timeout w with
      | none => exact (Table.get?_eq_none_of_isEmpty (trimmed_eq_none htrim) i).symm
      | some v =>
          obtain ⟨rfl, -⟩ := trimmed_eq_some htrim
          rfl

/-- A sweep leaves the swarms in which it leaves a peer. -/
theorem isSome_swarm?_trim (hs : s.Sound) (now timeout : Int64) (h : InfoHash) :
    ((trim rules s now timeout).2.swarm? h).isSome ↔
      ∃ i, ((trim rules s now timeout).2.record? h i).isSome := by
  constructor
  · intro hsome
    obtain ⟨v, hv⟩ := Option.isSome_iff_exists.mp hsome
    have hv' := hv
    rw [swarm?_trim, Option.bind_eq_some_iff] at hv'
    obtain ⟨w, hw, htrim⟩ := hv'
    obtain ⟨_, hkeep⟩ := trimmed_eq_some htrim
    obtain ⟨i, p, hp⟩ := Table.exists_get?_of_isEmpty (hkeep (hs h w hw).live)
    refine ⟨i, ?_⟩
    rw [State.record?, hv, Option.bind_some, hp]
    rfl
  · rintro ⟨i, hi⟩
    exact State.isSome_record?_swarm? hi

end Store

end PeerTracker
