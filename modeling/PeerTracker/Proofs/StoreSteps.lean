import PeerTracker.Proofs.SwarmCounters

/-!
# Operations on the store, swarm by swarm

What an operation makes of the table of swarms, said without the order in which it
does its work. A save, a drop and the loading of an entry change one swarm; a sweep
changes each swarm on its own (`swarm?_trim`), and what one swarm's turn keeps, the
whole sweep keeps (`trim_induction`).
-/

namespace PeerTracker

namespace State

@[simp] theorem swarms_parkAll (s : State) (ps : List Peer) :
    (s.parkAll ps).swarms = s.swarms := rfl

@[simp] theorem swarms_foldl_release (fast : Bool) (ps : List Peer) (s : State) :
    (ps.foldl (release fast) s).swarms = s.swarms := by
  induction ps generalizing s with
  | nil => rfl
  | cons p ps ih => exact ih (s.release fast p)

theorem setSwarm_eq_self {s : State} {hash : InfoHash} {w : Swarm} (h : s.swarm? hash = some w) :
    s.setSwarm hash w = s := by
  rw [setSwarm, Table.insert_eq_self h]

end State

namespace Store

variable (rules : StoreRules) (s : State)

/-! ## Save -/

theorem saveProvider_eq (w : Swarm) (id : PeerId) (u : Update) (pools : Pools) :
    ∃ t, (saveProvider w id u pools).1 = { w with providers := t } := by
  unfold saveProvider
  split
  · exact ⟨_, rfl⟩
  · exact ⟨w.providers, rfl⟩

/-- A save writes the report into the one swarm it opens. -/
theorem save_swarms (hash : InfoHash) (id : PeerId) (u : Update) :
    ∃ t, (save rules s hash id u).2.swarms = s.swarms.insert hash
      { savePeer (openSwarm s hash) id (record (openSwarm s hash).peers id s.pools).1 u with
        providers := t } := by
  obtain ⟨t, ht⟩ := saveProvider_eq
    (savePeer (openSwarm s hash) id (record (openSwarm s hash).peers id s.pools).1 u) id u
    (record (openSwarm s hash).peers id s.pools).2
  refine ⟨t, ?_⟩
  rw [← ht]
  rfl

variable {s}

theorem openSwarm_eq {hash : InfoHash} {w : Swarm} (h : s.swarm? hash = some w)
    (hw : w.retired = false) : openSwarm s hash = w := by
  simp [openSwarm, h, hw]

theorem openSwarm_of_none {hash : InfoHash} (h : s.swarm? hash = none) :
    openSwarm s hash = ∅ := by
  simp [openSwarm, h]

/-! ## Drop -/

/-- The swarm that a drop leaves. -/
def dropped (w : Swarm) (id : PeerId) (provider : Bool) : Swarm :=
  ({ w with providers := if provider then w.providers.erase id else w.providers }.remove id).2

/-- The record that a drop finds among those of providers. -/
def droppedProvider (w : Swarm) (id : PeerId) (provider : Bool) : List Peer :=
  if provider then (w.providers.get? id).toList else []

theorem dropProvider_eq {hash : InfoHash} {w : Swarm} (h : s.swarm? hash = some w)
    (id : PeerId) :
    dropProvider s hash w id =
      ({ w with providers := w.providers.erase id },
        (s.setSwarm hash { w with providers := w.providers.erase id }).parkAll
          (droppedProvider w id true)) := by
  unfold dropProvider droppedProvider
  cases hp : w.providers.get? id with
  | none =>
      rw [Table.erase_eq_self hp]
      exact Prod.ext rfl (State.setSwarm_eq_self h).symm
  | some p => rfl

theorem drop_of_none {hash : InfoHash} (h : s.swarm? hash = none) (id : PeerId)
    (provider : Bool) : drop rules s hash id provider = s := by
  simp [drop, h]

/-- A drop takes the records of one peer out of one swarm: that of a provider is parked, and
that of the peer is released. -/
theorem drop_eq {hash : InfoHash} {w : Swarm} (h : s.swarm? hash = some w) (id : PeerId)
    (provider : Bool) :
    drop rules s hash id provider =
      (w.peers.get? id).toList.foldl (State.release rules.fast)
        ((s.setSwarm hash (dropped w id provider)).parkAll (droppedProvider w id provider)) := by
  -- the provider goes first: `w₁` is the swarm after that
  obtain ⟨w₁, hw₁⟩ : ∃ w₁ : Swarm,
      w₁ = { w with providers := if provider then w.providers.erase id else w.providers } :=
    ⟨_, rfl⟩
  have hfirst : (if provider then dropProvider s hash w id else (w, s)) =
      (w₁, (s.setSwarm hash w₁).parkAll (droppedProvider w id provider)) := by
    subst hw₁
    cases provider with
    | false => exact Prod.ext rfl (State.setSwarm_eq_self h).symm
    | true => exact dropProvider_eq h id
  have hpeers : w.peers.get? id = w₁.peers.get? id := by rw [hw₁]
  have hdropped : dropped w id provider = (w₁.remove id).2 := by rw [dropped, hw₁]
  rw [hdropped, hpeers]
  cases hp : w₁.peers.get? id with
  | none => simp only [drop, h, hfirst, Swarm.remove, hp, Option.toList_none, List.foldl_nil]
  | some p =>
      simp only [drop, h, hfirst, Swarm.remove, hp, Option.toList_some, List.foldl_cons,
        List.foldl_nil]
      simp only [State.setSwarm, State.parkAll, Table.insert_insert]

/-- A drop changes one swarm, and counts out the peer. -/
theorem drop_spec {hash : InfoHash} {w : Swarm} (h : s.swarm? hash = some w) (id : PeerId)
    (provider : Bool) :
    (drop rules s hash id provider).swarms = s.swarms.insert hash (dropped w id provider) ∧
      (drop rules s hash id provider).stats =
        match w.peers.get? id with
        | none => s.stats
        | some p => if rules.fast then s.stats else s.stats.leave p.complete p.ip := by
  rw [drop_eq rules h]
  refine ⟨State.swarms_foldl_release rules.fast _ _, ?_⟩
  cases w.peers.get? id <;> rfl

theorem swarm?_drop (hash h : InfoHash) (id : PeerId) (provider : Bool) :
    (drop rules s hash id provider).swarm? h =
      if h = hash then (s.swarm? hash).map (dropped · id provider) else s.swarm? h := by
  cases hw : s.swarm? hash with
  | none =>
      rw [drop_of_none rules hw]
      split
      · next e => rw [e, hw]; rfl
      · rfl
  | some w =>
      rw [State.swarm?, (drop_spec rules hw id provider).1, Table.get?_insert]
      rfl

/-! ## Trim -/

/-- What a sweep makes of a swarm; nothing if it finds no peer to keep. -/
def trimmed (now timeout : Int64) (w : Swarm) : Option Swarm :=
  let w' := (expire now timeout w).1
  if w'.peers.isEmpty && !w'.retired then none else some w'

theorem trimmed_eq_none {now timeout : Int64} {w : Swarm} (h : trimmed now timeout w = none) :
    (expire now timeout w).1.peers.isEmpty = true := by
  unfold trimmed at h
  dsimp only at h
  split at h
  · next hgone => exact (Bool.and_eq_true_iff.mp hgone).1
  · cases h

/-- What stays of a live swarm has peers. -/
theorem trimmed_eq_some {now timeout : Int64} {w v : Swarm} (h : trimmed now timeout w = some v) :
    v = (expire now timeout w).1 ∧ (w.retired = false → ¬v.peers.isEmpty = true) := by
  unfold trimmed at h
  dsimp only at h
  split at h
  · cases h
  · next hkeep =>
    cases h
    refine ⟨rfl, fun hlive => ?_⟩
    rw [Swarm.expire_retired, hlive, Bool.not_false, Bool.and_true] at hkeep
    exact hkeep

section Trim

variable (fast : Bool) (now timeout : Int64)

/-- One swarm's turn in a sweep. -/
theorem trimHash_spec (acc : Trimmed × State) (e : InfoHash × Swarm) :
    (trimHash fast now timeout acc e).2.swarms =
        (match trimmed now timeout e.2 with
        | none => acc.2.swarms.erase e.1
        | some w => acc.2.swarms.insert e.1 w) ∧
      (trimHash fast now timeout acc e).2.stats =
        ((expire now timeout e.2).2.1.foldl (State.release fast) acc.2).stats := by
  by_cases h : (expire now timeout e.2).1.peers.isEmpty && !(expire now timeout e.2).1.retired
  · simp only [trimHash, trimSwarm, trimmed, if_pos h]
    refine ⟨?_, rfl⟩
    show (Table.insert _ _ _).erase e.1 = _
    rw [Table.erase_insert]
    simp
  · simp only [trimHash, trimSwarm, trimmed, if_neg h]
    refine ⟨?_, rfl⟩
    show Table.insert _ _ _ = _
    simp

theorem swarm?_trimHash (acc : Trimmed × State) (e : InfoHash × Swarm) (h : InfoHash) :
    (trimHash fast now timeout acc e).2.swarm? h =
      if h = e.1 then trimmed now timeout e.2 else acc.2.swarm? h := by
  rw [State.swarm?, (trimHash_spec fast now timeout acc e).1]
  cases trimmed now timeout e.2 with
  | none => exact Table.get?_erase _ _ _
  | some w => exact Table.get?_insert _ _ _ _

/-- What holds before a sweep, and is kept by the turn of any swarm that the store has
then, holds after it. -/
theorem foldl_trimHash_induction {P : State → Prop}
    (hstep : ∀ (acc : Trimmed × State) (hash : InfoHash) (w : Swarm), P acc.2 →
      acc.2.swarm? hash = some w → P (trimHash fast now timeout acc (hash, w)).2)
    (es : List (InfoHash × Swarm)) (hnodup : (es.map Prod.fst).Nodup)
    (acc : Trimmed × State) (hes : ∀ e ∈ es, acc.2.swarm? e.1 = some e.2) (h : P acc.2) :
    P (es.foldl (trimHash fast now timeout) acc).2 := by
  induction es generalizing acc with
  | nil => exact h
  | cons e rest ih =>
      rw [List.map_cons, List.nodup_cons] at hnodup
      have hhead := hes e List.mem_cons_self
      refine ih hnodup.2 _ ?_ (hstep acc e.1 e.2 h hhead)
      intro x hx
      -- the turn of `e` leaves alone the swarms that are still to come
      have hne : x.1 ≠ e.1 := fun he => hnodup.1 (he ▸ List.mem_map_of_mem hx)
      rw [swarm?_trimHash, if_neg hne]
      exact hes x (List.mem_cons_of_mem _ hx)

theorem swarm?_foldl_trimHash (es : List (InfoHash × Swarm)) (hnodup : (es.map Prod.fst).Nodup)
    (acc : Trimmed × State) (h : InfoHash) :
    (es.foldl (trimHash fast now timeout) acc).2.swarm? h =
      match Table.find h es with
      | none => acc.2.swarm? h
      | some w => trimmed now timeout w := by
  induction es generalizing acc with
  | nil => rfl
  | cons e rest ih =>
      rw [List.map_cons, List.nodup_cons] at hnodup
      rw [List.foldl_cons, ih hnodup.2, swarm?_trimHash]
      by_cases he : e.1 = h
      · -- no later turn comes back to this swarm
        have hrest : Table.find h rest = none := by
          rw [Table.find, Option.map_eq_none_iff, List.find?_eq_none]
          intro x hx hxh
          rw [decide_eq_true_eq] at hxh
          exact hnodup.1 (he.trans hxh.symm ▸ List.mem_map_of_mem hx)
        rw [hrest, if_pos he.symm]
        simp [Table.find, he]
      · have hskip : Table.find h (e :: rest) = Table.find h rest := by
          simp [Table.find, he]
        rw [hskip, if_neg (fun x => he x.symm)]

end Trim

variable (now timeout : Int64)

/-- A sweep trims every swarm on its own. -/
theorem swarm?_trim (s : State) (h : InfoHash) :
    (trim rules s now timeout).2.swarm? h = (s.swarm? h).bind (trimmed now timeout) := by
  have hfold := swarm?_foldl_trimHash rules.fast now timeout s.swarms.entries s.swarms.nodup
    ({}, s) h
  rw [trim, hfold]
  show (match s.swarm? h with
    | none => s.swarm? h
    | some w => trimmed now timeout w) = _
  cases s.swarm? h <;> rfl

theorem trim_induction {P : State → Prop}
    (hstep : ∀ (acc : Trimmed × State) (hash : InfoHash) (w : Swarm), P acc.2 →
      acc.2.swarm? hash = some w → P (trimHash rules.fast now timeout acc (hash, w)).2)
    (s : State) (h : P s) : P (trim rules s now timeout).2 := by
  refine foldl_trimHash_induction rules.fast now timeout hstep s.swarms.entries s.swarms.nodup
    ({}, s) ?_ h
  intro e he
  exact (Table.get?_eq_some_iff _ _ _).mpr he

/-! ## Loading a snapshot -/

section Load

variable (fast : Bool)

theorem loadPeer_fst (acc : Swarm × State) (r : Snapshot.PeerRecord) :
    (loadPeer fast acc r).1 = acc.1.accept r := by
  obtain ⟨w, s⟩ := acc
  simp only [loadPeer, Swarm.accept]
  split <;> rfl

theorem loadPeer_swarms (acc : Swarm × State) (r : Snapshot.PeerRecord) :
    (loadPeer fast acc r).2.swarms = acc.2.swarms := by
  obtain ⟨w, s⟩ := acc
  simp only [loadPeer]
  split <;> rfl

/-- Loading peers builds the swarm of the records; the store does not see it yet. -/
theorem foldl_loadPeer (rs : List Snapshot.PeerRecord) (acc : Swarm × State) :
    (rs.foldl (loadPeer fast) acc).1 = rs.foldl Swarm.accept acc.1 ∧
      (rs.foldl (loadPeer fast) acc).2.swarms = acc.2.swarms := by
  induction rs generalizing acc with
  | nil => exact ⟨rfl, rfl⟩
  | cons r rs ih =>
      obtain ⟨hswarm, hswarms⟩ := ih (loadPeer fast acc r)
      rw [loadPeer_fst] at hswarm
      rw [loadPeer_swarms] at hswarms
      exact ⟨hswarm, hswarms⟩

theorem foldl_loadProvider (rs : List Snapshot.PeerRecord) (acc : Swarm × State) :
    (rs.foldl loadProvider acc).1 = rs.foldl Swarm.acceptProvider acc.1 ∧
      (rs.foldl loadProvider acc).2.swarms = acc.2.swarms ∧
      (rs.foldl loadProvider acc).2.stats = acc.2.stats := by
  induction rs generalizing acc with
  | nil => exact ⟨rfl, rfl, rfl⟩
  | cons r rs ih => exact ih (loadProvider acc r)

theorem retire_swarms (s : State) (w : Swarm) : (retire fast s w).swarms = s.swarms :=
  State.swarms_foldl_release fast _ s

/-- A swarm that is replaced is counted out, record by record. -/
theorem retire_stats (s : State) (w : Swarm) :
    ∃ gone : List Peer, (↑gone : Multiset Peer) = w.peers.bag ∧
      (retire fast s w).stats = (gone.foldl (State.release fast) s).stats :=
  ⟨_, Swarm.removeAll_keys { w with retired := true }, rfl⟩

theorem replace_swarms (s : State) (hash : InfoHash) (w : Swarm) :
    (replace fast s hash w).swarms = s.swarms.insert hash w := by
  unfold replace
  split
  · rfl
  · rw [retire_swarms]
    rfl

/-- The state in which an entry that has peers puts its swarm into the store. -/
def assembled (s : State) (r : Snapshot.SwarmRecord) : State :=
  (r.providers.foldl loadProvider (r.peers.foldl (loadPeer fast) (∅, s))).2

theorem assembled_swarms (s : State) (r : Snapshot.SwarmRecord) :
    (assembled fast s r).swarms = s.swarms :=
  (foldl_loadProvider _ _).2.1.trans (foldl_loadPeer fast _ _).2

theorem assembled_stats (s : State) (r : Snapshot.SwarmRecord) :
    (assembled fast s r).stats = (r.peers.foldl (loadPeer fast) (∅, s)).2.stats :=
  (foldl_loadProvider _ _).2.2

/-- An entry with peers replaces one swarm, an entry without is passed over. -/
theorem loadEntry_snd (acc : (Nat × Nat) × State) (r : Snapshot.SwarmRecord) :
    (loadEntry fast acc r).2 =
      if (Swarm.ofRecord r).peers.isEmpty then (r.peers.foldl (loadPeer fast) (∅, acc.2)).2
      else replace fast (assembled fast acc.2 r) r.hash (Swarm.ofRecord r) := by
  have hpeers := (foldl_loadPeer fast r.peers (∅, acc.2)).1
  have hproviders :=
    (foldl_loadProvider r.providers (r.peers.foldl (loadPeer fast) (∅, acc.2))).1
  rw [hpeers] at hproviders
  have hempty : (Swarm.ofRecord r).peers.isEmpty =
      (r.peers.foldl (loadPeer fast) (∅, acc.2)).1.peers.isEmpty := by
    rw [Swarm.ofRecord_peers, hpeers]
  have hofRecord : Swarm.ofRecord r =
      (r.providers.foldl loadProvider (r.peers.foldl (loadPeer fast) (∅, acc.2))).1 :=
    hproviders.symm
  obtain ⟨n, s⟩ := acc
  rw [hempty]
  by_cases h : (r.peers.foldl (loadPeer fast) (∅, s)).1.peers.isEmpty = true
  · rw [if_pos h]
    simp only [loadEntry, if_pos h]
  · rw [if_neg h, hofRecord]
    simp only [loadEntry, if_neg h]
    rfl

theorem loadEntry_swarms (acc : (Nat × Nat) × State) (r : Snapshot.SwarmRecord) :
    (loadEntry fast acc r).2.swarms =
      if (Swarm.ofRecord r).peers.isEmpty then acc.2.swarms
      else acc.2.swarms.insert r.hash (Swarm.ofRecord r) := by
  rw [loadEntry_snd]
  split
  · exact (foldl_loadPeer fast r.peers (∅, acc.2)).2
  · rw [replace_swarms, assembled_swarms]

end Load

end Store

end PeerTracker
