import Mathlib.Order.Bounds.Basic
import PeerTracker.Proofs.Histories
import PeerTracker.Proofs.Sweeps

/-!
# Spare records

A record is in use, as that of a peer or of a provider, or it is spare and waits in its
pool. No command does both of taking records out of use and putting some into use, and
whatever a command takes out is spare afterwards, while what it puts in was spare before
as long as there were any (`State.Recycles`). Hence a record is made only when all that
there are come to be in use at once, and so there are as many as were ever in use.
-/

namespace PeerTracker

/-! ## Records in use -/

/-- The records of a swarm, of peers and of providers. -/
def Swarm.inUse (w : Swarm) : Nat := w.peers.size + w.providers.size

/-- The records of a table of swarms. -/
def usage (t : Table InfoHash Swarm) : Nat := (t.bag.map Swarm.inUse).sum

theorem usage_insert (t : Table InfoHash Swarm) (hash : InfoHash) (w : Swarm) :
    usage (t.insert hash w) = w.inUse + usage (t.erase hash) := by
  rw [usage, Table.bag_insert, Multiset.map_cons, Multiset.sum_cons, usage]

theorem usage_eq_add {t : Table InfoHash Swarm} {hash : InfoHash} {w : Swarm}
    (h : t.get? hash = some w) : usage t = w.inUse + usage (t.erase hash) := by
  rw [← usage_insert, Table.insert_eq_self h]

theorem usage_openSwarm {s : State} (hs : s.Sound) (hash : InfoHash) :
    usage s.swarms = (Store.openSwarm s hash).inUse + usage (s.swarms.erase hash) := by
  cases h : s.swarm? hash with
  | none =>
      have hempty : (∅ : Swarm).inUse = 0 := rfl
      rw [Store.openSwarm_of_none h, Table.erase_eq_self h, hempty, Nat.zero_add]
  | some w =>
      rw [Store.openSwarm_eq h (hs hash w h).live]
      exact usage_eq_add h

namespace State

/-- The records in use over all swarms. -/
def inUse (s : State) : Nat := s.records.length + s.providerRecords.length

/-- The records in the pool. -/
def spare (s : State) : Nat := s.pools.peers.size

theorem inUse_eq (s : State) : s.inUse = usage s.swarms := by
  have hsum : ∀ f : Swarm → List Peer,
      (s.swarms.values.flatMap f).length = (s.swarms.bag.map fun w => (f w).length).sum := by
    intro f
    rw [List.length_flatMap, Table.bag, Multiset.map_coe, Multiset.sum_coe]
  rw [inUse, records, providerRecords, hsum, hsum, ← Multiset.sum_map_add]
  simp only [Table.length_values]
  rfl

end State

/-! ## Taking and parking -/

namespace Pools

theorem size_getPeer (p : Pools) : p.getPeer.2.peers.size = p.peers.size - 1 :=
  p.peers.size_get _

theorem size_putPeer (p : Pools) (x : Peer) : (p.putPeer x).peers.size = p.peers.size + 1 :=
  p.peers.size_put _ x

theorem size_putPeers (p : Pools) (xs : List Peer) :
    (p.putPeers xs).peers.size = p.peers.size + xs.length := by
  induction xs generalizing p with
  | nil => rfl
  | cons x xs ih =>
      show ((p.putPeer x).putPeers xs).peers.size = _
      rw [ih, size_putPeer, List.length_cons]
      omega

end Pools

namespace State

theorem spare_parkAll (s : State) (ps : List Peer) :
    (s.parkAll ps).spare = s.spare + ps.length := s.pools.size_putPeers ps

theorem spare_release (fast : Bool) (s : State) (p : Peer) :
    (s.release fast p).spare = s.spare + 1 := s.pools.size_putPeer p

theorem spare_foldl_release (fast : Bool) (ps : List Peer) (s : State) :
    (ps.foldl (release fast) s).spare = s.spare + ps.length := by
  induction ps generalizing s with
  | nil => rfl
  | cons p ps ih =>
      rw [List.foldl_cons, ih, spare_release, List.length_cons]
      omega

/-- What goes out of use is spare from then on; what comes into use was spare, as far as
there were spare ones. -/
structure Recycles (s s' : State) : Prop where
  parked : s'.inUse ≤ s.inUse → s'.spare = s.spare + (s.inUse - s'.inUse)
  reused : s.inUse ≤ s'.inUse → s'.spare = s.spare - (s'.inUse - s.inUse)

/-- The records are as many as before, and no more of them are in use. -/
structure Parks (s s' : State) : Prop where
  total : s'.inUse + s'.spare = s.inUse + s.spare
  less : s'.inUse ≤ s.inUse

namespace Parks

variable {s t u : State}

theorem refl (s : State) : s.Parks s := ⟨rfl, Nat.le_refl _⟩

theorem trans (h : s.Parks t) (h' : t.Parks u) : s.Parks u :=
  ⟨h'.total.trans h.total, Nat.le_trans h'.less h.less⟩

theorem recycles (h : s.Parks t) : s.Recycles t where
  parked := by
    intro _
    have := h.total
    have := h.less
    omega
  reused := by
    intro _
    have := h.total
    have := h.less
    omega

/-- Some records leave a swarm and are parked, all of them. -/
theorem of_swarm {hash : InfoHash} {w : Swarm} (hw : s.swarm? hash = some w) {n : Nat}
    (hleft : usage t.swarms + n = w.inUse + usage (s.swarms.erase hash))
    (hparked : t.spare = s.spare + n) : s.Parks t := by
  have hbefore := usage_eq_add hw
  rw [← State.inUse_eq] at hleft hbefore
  exact ⟨by omega, by omega⟩

end Parks

theorem Recycles.of_taken {s s' : State} {n : Nat} (hinUse : s'.inUse = s.inUse + n)
    (hspare : s'.spare = s.spare - n) : s.Recycles s' where
  parked := by
    intro _
    omega
  reused := by
    intro _
    omega

theorem Recycles.total {s s' : State} (h : s.Recycles s') :
    s'.inUse + s'.spare = max (s.inUse + s.spare) s'.inUse := by
  rcases Nat.le_total s'.inUse s.inUse with hle | hle
  · rw [h.parked hle]
    omega
  · rw [h.reused hle]
    omega

end State

/-! ## Commands -/

namespace Store

variable (rules : StoreRules) {s : State}

/-- A record is taken from the pool where there is none to write on. -/
theorem size_record (t : Table PeerId Peer) (id : PeerId) (pools : Pools) :
    (record t id pools).2.peers.size = pools.peers.size - (1 - (t.get? id).toList.length) := by
  unfold record
  cases t.get? id with
  | none => exact pools.size_getPeer
  | some p => rfl

theorem inUse_savePeer (w : Swarm) (id : PeerId) (p : Peer) (u : Update) :
    (savePeer w id p u).inUse = w.inUse + (1 - (w.peers.get? id).toList.length) := by
  have hproviders : (savePeer w id p u).providers = w.providers :=
    (Swarm.sameRecords_recount w id u.complete).providers
  rw [Swarm.inUse, hproviders, Swarm.savePeer_peers, Table.size_insert, Swarm.inUse]
  omega

theorem inUse_saveProvider (w : Swarm) (id : PeerId) (u : Update) (pools : Pools) :
    ∃ n, (saveProvider w id u pools).1.inUse = w.inUse + n ∧
      (saveProvider w id u pools).2.peers.size = pools.peers.size - n := by
  unfold saveProvider
  split
  · refine ⟨1 - (w.providers.get? id).toList.length, ?_, size_record w.providers id pools⟩
    show w.peers.size + (w.providers.insert id _).size = _
    rw [Table.size_insert, Swarm.inUse]
    omega
  · exact ⟨0, rfl, rfl⟩

/-- A report needs a record for a new peer and one for a new provider. -/
theorem inUse_saved (w : Swarm) (id : PeerId) (u : Update) (pools : Pools) :
    let recorded := record w.peers id pools
    let saved := saveProvider (savePeer w id recorded.1 u) id u recorded.2
    ∃ n, saved.1.inUse = w.inUse + n ∧ saved.2.peers.size = pools.peers.size - n := by
  intro recorded saved
  obtain ⟨n, hinUse, hspare⟩ :=
    inUse_saveProvider (savePeer w id recorded.1 u) id u recorded.2
  refine ⟨(1 - (w.peers.get? id).toList.length) + n, ?_, ?_⟩
  · rw [hinUse, inUse_savePeer, Nat.add_assoc]
  · rw [hspare, size_record, Nat.sub_sub]

theorem recycles_save (hs : s.Sound) (hash : InfoHash) (id : PeerId) (u : Update) :
    s.Recycles (save rules s hash id u).2 := by
  obtain ⟨n, hinUse, hspare⟩ := inUse_saved (openSwarm s hash) id u s.pools
  refine .of_taken (n := n) ?_ hspare
  have hafter := usage_insert s.swarms hash (saveProvider
    (savePeer (openSwarm s hash) id (record (openSwarm s hash).peers id s.pools).1 u) id u
    (record (openSwarm s hash).peers id s.pools).2).1
  rw [hinUse] at hafter
  rw [State.inUse_eq, State.inUse_eq, usage_openSwarm hs hash]
  refine hafter.trans ?_
  omega

/-- What a drop leaves in a swarm and what it finds there are all the records. -/
theorem inUse_dropped (w : Swarm) (id : PeerId) (provider : Bool) :
    (dropped w id provider).inUse +
      ((droppedProvider w id provider).length + (w.peers.get? id).toList.length) = w.inUse := by
  have hpeers := w.peers.size_erase_add id
  have hproviders := w.providers.size_erase_add id
  rw [Swarm.inUse, Swarm.inUse, dropped, Swarm.remove_peers, Swarm.remove_providers]
  cases provider with
  | false =>
      show (w.peers.erase id).size + w.providers.size + (0 + _) = _
      omega
  | true =>
      show (w.peers.erase id).size + (w.providers.erase id).size +
        ((w.providers.get? id).toList.length + _) = _
      omega

/-- A drop parks the records that it finds. -/
theorem parks_drop (hash : InfoHash) (id : PeerId) (provider : Bool) :
    s.Parks (drop rules s hash id provider) := by
  cases hw : s.swarm? hash with
  | none =>
      rw [drop_of_none rules hw]
      exact .refl s
  | some w =>
      have hdropped := inUse_dropped w id provider
      refine .of_swarm hw (n := (droppedProvider w id provider).length +
        (w.peers.get? id).toList.length) ?_ ?_
      · rw [(drop_spec rules hw id provider).1, usage_insert]
        omega
      · rw [drop_eq rules hw, State.spare_foldl_release, State.spare_parkAll, Nat.add_assoc]
        rfl

section Trim

variable (now timeout : Int64)

/-- The records of a swarm expire or stay. -/
theorem inUse_expire (w : Swarm) :
    (expire now timeout w).1.inUse + ((expire now timeout w).2.1.length +
      (expire now timeout w).2.2.length) = w.inUse := by
  have hpeers := congrArg Multiset.card (Swarm.expire_bag w now timeout)
  rw [Multiset.card_add, Multiset.coe_card, Table.card_bag, Table.card_bag] at hpeers
  have hproviders : (expire now timeout w).1.providers.size + (expire now timeout w).2.2.length =
      w.providers.size := by
    rw [Swarm.expire_providers, Swarm.expire_goneProviders, ← Table.length_values,
      Table.values_filter, ← Table.length_values, ← List.countP_eq_length_filter,
      ← List.countP_eq_length_filter, Nat.add_comm,
      List.length_eq_countP_add_countP (·.isExpired now timeout)]
    simp
  rw [Swarm.inUse, Swarm.inUse]
  omega

theorem spare_trimHash (fast : Bool) (acc : Trimmed × State) (e : InfoHash × Swarm) :
    (trimHash fast now timeout acc e).2.spare =
      acc.2.spare + ((expire now timeout e.2).2.1.length + (expire now timeout e.2).2.2.length +
        if (trimmed now timeout e.2).isSome then 0
        else (expire now timeout e.2).1.providers.size) := by
  have hparked : (((expire now timeout e.2).2.1.foldl (State.release fast) acc.2).parkAll
      (expire now timeout e.2).2.2).spare = acc.2.spare +
        ((expire now timeout e.2).2.1.length + (expire now timeout e.2).2.2.length) := by
    rw [State.spare_parkAll, State.spare_foldl_release, Nat.add_assoc]
  rw [← Nat.add_assoc, ← hparked]
  by_cases h : (expire now timeout e.2).1.peers.isEmpty && !(expire now timeout e.2).1.retired
  · simp only [trimHash, trimSwarm, trimmed, if_pos h]
    rw [← Table.length_values]
    exact State.spare_parkAll _ _
  · simp only [trimHash, trimSwarm, trimmed, if_neg h]
    rfl

/-- One swarm's turn parks what expires, and the providers of a swarm that goes. -/
theorem parks_trimHash (fast : Bool) (acc : Trimmed × State) {hash : InfoHash} {w : Swarm}
    (hw : acc.2.swarm? hash = some w) :
    acc.2.Parks (trimHash fast now timeout acc (hash, w)).2 := by
  have hexpire := inUse_expire now timeout w
  have hspare := spare_trimHash now timeout fast acc (hash, w)
  have hswarms := (trimHash_spec fast now timeout acc (hash, w)).1
  refine .of_swarm hw ?_ hspare
  rw [hswarms]
  dsimp only
  cases htrim : trimmed now timeout w with
  | none =>
      have hempty : (expire now timeout w).1.peers.size = 0 := by
        rw [← Table.card_bag, Table.bag_eq_zero_of_isEmpty (trimmed_eq_none htrim)]
        rfl
      rw [Swarm.inUse, hempty] at hexpire
      show usage (acc.2.swarms.erase hash) + (_ + (expire now timeout w).1.providers.size) = _
      omega
  | some v =>
      obtain ⟨rfl, -⟩ := trimmed_eq_some htrim
      show usage (acc.2.swarms.insert hash (expire now timeout w).1) + (_ + 0) = _
      rw [usage_insert]
      omega

theorem parks_trim : s.Parks (trim rules s now timeout).2 := by
  refine trim_induction (P := s.Parks) rules now timeout ?_ s (.refl s)
  intro acc hash w hacc hw
  exact hacc.trans (parks_trimHash now timeout rules.fast acc hw)

end Trim

end Store

theorem Command.recycles (rules : StoreRules) {s : State} (hs : s.Sound) (c : Command) :
    s.Recycles (c.exec rules s) := by
  cases c with
  | save hash id u => exact Store.recycles_save rules hs hash id u
  | drop hash id provider => exact (Store.parks_drop rules hash id provider).recycles
  | trim now timeout => exact (Store.parks_trim rules now timeout).recycles

/-! ## Runs -/

/-- **Records are conserved.** After any commands on a fresh tracker, the records in use
and the spare ones together are as many as were ever in use at one time, and so it goes
on: what the next command takes out of use is spare afterwards, each record once, and what
it puts into use is taken from the spare ones as long as there are any. -/
theorem records_are_conserved (rules : StoreRules) (limit : Nat) (random : RandomSource)
    (cmds : List Command) :
    let run := fun cmds : List Command => cmds.foldl (Command.exec rules) (.fresh limit random)
    let s := run cmds
    IsGreatest {n | ∃ before, before <+: cmds ∧ (run before).inUse = n} (s.inUse + s.spare) ∧
      ∀ c : Command, s.Recycles (c.exec rules s) := by
  intro run s
  have hsound : ∀ cmds, (run cmds).Sound :=
    fun cmds => (refines_run rules limit random cmds).sound
  refine ⟨?_, fun c => c.recycles rules (hsound cmds)⟩
  show IsGreatest _ ((run cmds).inUse + (run cmds).spare)
  clear s
  induction cmds using List.reverseRecOn with
  | nil =>
      have honly : {n | ∃ before, before <+: [] ∧ (run before).inUse = n} = {0} := by
        ext n
        constructor
        · rintro ⟨before, hbefore, rfl⟩
          rw [List.prefix_nil.mp hbefore]
          rfl
        · rintro rfl
          exact ⟨[], List.prefix_rfl, rfl⟩
      rw [honly]
      exact isGreatest_singleton
  | append_singleton cmds c ih =>
      have hlast : run (cmds ++ [c]) = c.exec rules (run cmds) := List.foldl_append
      have hmore : {n | ∃ before, before <+: cmds ++ [c] ∧ (run before).inUse = n} =
          insert (run (cmds ++ [c])).inUse
            {n | ∃ before, before <+: cmds ∧ (run before).inUse = n} := by
        ext n
        simp only [Set.mem_ofPred_eq, Set.mem_insert_iff, List.prefix_concat_iff]
        constructor
        · rintro ⟨before, rfl | hbefore, rfl⟩
          · exact Or.inl rfl
          · exact Or.inr ⟨before, hbefore, rfl⟩
        · rintro (rfl | ⟨before, hbefore, rfl⟩)
          · exact ⟨_, Or.inl rfl, rfl⟩
          · exact ⟨before, Or.inr hbefore, rfl⟩
      rw [hmore, hlast, (c.recycles rules (hsound cmds)).total, max_comm]
      exact ih.insert _

end PeerTracker
