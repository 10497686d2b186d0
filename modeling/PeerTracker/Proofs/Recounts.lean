import PeerTracker.Proofs.Runs

/-!
# Swarm counters after any run

Whatever is saved, dropped, swept or restored, and in whatever order, the counters of
every swarm in the store are a count of its peers, and the mark of a swarm that has
left is on none of them. Nor is a counter ever taken below zero on the way: `lowered`
lists the values that an action takes one from.
-/

namespace PeerTracker

/-- What holds of every swarm in the store. -/
structure Swarm.Sound (w : Swarm) : Prop where
  counted : w.Counted
  live : w.retired = false

def State.Sound (s : State) : Prop := ∀ hash w, s.swarm? hash = some w → w.Sound

namespace Store

theorem sound_of_insert {s s' : State} {hash : InfoHash} {w : Swarm} (hs : s.Sound)
    (hw : w.Sound) (h : s'.swarms = s.swarms.insert hash w) : s'.Sound := by
  intro i v hv
  rw [State.swarm?, h, Table.get?_insert] at hv
  split at hv
  · cases hv
    exact hw
  · exact hs i v hv

theorem sound_openSwarm {s : State} (hs : s.Sound) (hash : InfoHash) :
    (openSwarm s hash).Sound := by
  cases h : s.swarm? hash with
  | none =>
      rw [openSwarm_of_none h]
      exact ⟨Swarm.counted_empty, rfl⟩
  | some w =>
      have hw := hs hash w h
      rw [openSwarm_eq h hw.live]
      exact hw

variable (rules : StoreRules) {s : State} (hs : s.Sound)
include hs

theorem sound_save (hash : InfoHash) (id : PeerId) (u : Update) :
    (save rules s hash id u).2.Sound := by
  obtain ⟨t, ht⟩ := save_swarms rules s hash id u
  obtain ⟨hcounted, hlive⟩ := sound_openSwarm hs hash
  refine sound_of_insert hs ⟨?_, ?_⟩ ht
  · exact (hcounted.savePeer id _ u).withProviders t
  · exact (Swarm.sameRecords_recount _ id u.complete).retired.trans hlive

theorem sound_drop (hash : InfoHash) (id : PeerId) (provider : Bool) :
    (drop rules s hash id provider).Sound := by
  cases h : s.swarm? hash with
  | none =>
      rw [drop_of_none rules h]
      exact hs
  | some w =>
      obtain ⟨hcounted, hlive⟩ := hs hash w h
      refine sound_of_insert hs ⟨?_, ?_⟩ (drop_spec rules h id provider).1
      · exact (hcounted.withProviders _).remove id
      · exact (Swarm.remove_retired _ id).trans hlive

theorem sound_trim (now timeout : Int64) : (trim rules s now timeout).2.Sound := by
  intro hash v hv
  rw [swarm?_trim, Option.bind_eq_some_iff] at hv
  obtain ⟨w, hw, htrim⟩ := hv
  obtain ⟨hcounted, hlive⟩ := hs hash w hw
  obtain ⟨rfl, -⟩ := trimmed_eq_some htrim
  exact ⟨hcounted.expire now timeout, (Swarm.expire_retired w now timeout).trans hlive⟩

theorem sound_loadEntry (acc : Nat × Nat) (r : Snapshot.SwarmRecord) :
    (loadEntry rules.fast (acc, s) r).2.Sound := by
  have hswarms := loadEntry_swarms rules.fast (acc, s) r
  by_cases h : (Swarm.ofRecord r).peers.isEmpty = true
  · rw [if_pos h] at hswarms
    intro i v hv
    rw [State.swarm?, hswarms] at hv
    exact hs i v hv
  · rw [if_neg h] at hswarms
    exact sound_of_insert hs ⟨Swarm.counted_ofRecord r, Swarm.ofRecord_retired r⟩ hswarms

end Store

theorem State.Sound.exec {rules : StoreRules} (s : State) (a : Action) (hs : s.Sound) :
    (a.exec rules s).Sound := by
  cases a with
  | entry r => exact Store.sound_loadEntry rules hs (0, 0) r
  | command c =>
      cases c with
      | save hash id u => exact Store.sound_save rules hs hash id u
      | drop hash id provider => exact Store.sound_drop rules hs hash id provider
      | trim now timeout => exact Store.sound_trim rules hs now timeout

theorem State.sound_fresh (limit : Nat) (random : RandomSource) :
    (State.fresh limit random).Sound := by
  intro hash w h
  cases h

/-! ## Counting one by one -/

namespace Store

variable {s : State} {hash : InfoHash}

/-- How many peers of a kind a hash has, its records counted one by one. -/
def headcount (s : State) (hash : InfoHash) (complete : Bool) : Nat :=
  (listed s hash).countP fun e => e.2.complete == complete

theorem listed_eq {w : Swarm} (h : s.swarm? hash = some w) : listed s hash = w.peers.entries := by
  simp only [listed, h]

theorem tally_eq_headcount {w : Swarm} (h : s.swarm? hash = some w) (c : Bool) :
    w.tally c = headcount s hash c := by
  have hvalues : w.peers.values.countP (fun p => p.complete == c) = headcount s hash c := by
    rw [headcount, listed_eq h, Table.values, List.countP_map]
    rfl
  rw [← hvalues]
  simp [Swarm.tally, Table.bag, Multiset.coe_countP, beq_eq_decide]

/-- What is said of a hash is a recount, as far as the counters go; of an unknown one it is
that nobody is there. -/
theorem hashStats_eq (hs : s.Sound) (hash : InfoHash) :
    hashStats s hash =
      (UInt32.ofNat (headcount s hash true), UInt32.ofNat (headcount s hash false)) := by
  cases hw : s.swarm? hash with
  | none => simp [hashStats, headcount, listed, hw]
  | some w =>
      have hcounted := (hs hash w hw).counted
      rw [hashStats, hw, ← tally_eq_headcount hw, ← tally_eq_headcount hw]
      exact Prod.ext (hcounted true) (hcounted false)

theorem headcount_le (s : State) (hash : InfoHash) (c : Bool) :
    headcount s hash c ≤ (listed s hash).length :=
  List.countP_le_length

end Store

/-! ## What is taken from the counters -/

/-- The values of the counters that an action takes one from, each as it is just before
that: of a peer that changes sides, of one that is dropped, of those that a sweep
expires, and of all those in a swarm that a snapshot replaces. -/
def Action.lowered (s : State) : Action → List UInt32
  | command (.save hash id u) =>
    let w := Store.openSwarm s hash
    ((w.peers.get? id).filter fun p => p.complete ≠ u.complete).toList.map fun p =>
      w.counter p.complete
  | command (.drop hash id _) => (s.swarm? hash).toList.flatMap fun w => w.lowered [id]
  | command (.trim now timeout) =>
    s.swarms.values.flatMap fun w =>
      w.lowered (w.peers.filter fun _ p => p.isExpired now timeout).keys
  | entry r =>
    if (Swarm.ofRecord r).peers.isEmpty then []
    else (s.swarm? r.hash).toList.flatMap fun w => w.lowered w.peers.keys

/-- Swarms small enough for their counters. -/
def State.Countable (s : State) : Prop :=
  ∀ hash w, s.swarm? hash = some w → w.peers.size < 2 ^ 32

theorem State.Sound.zero_notMem_lowered {s : State} (hs : s.Sound) (hsmall : s.Countable)
    (a : Action) : 0 ∉ a.lowered s := by
  have hswarm : ∀ hash w ids, s.swarm? hash = some w → 0 ∉ w.lowered ids := by
    intro hash w ids hw
    exact (hs hash w hw).counted.zero_notMem_lowered (hsmall hash w hw) ids
  intro hmem
  cases a with
  | entry r =>
      rw [Action.lowered] at hmem
      split at hmem
      · cases hmem
      · obtain ⟨w, hw, hzero⟩ := List.mem_flatMap.mp hmem
        exact hswarm _ w _ (Option.mem_toList.mp hw) hzero
  | command c =>
      cases c with
      | save hash id u =>
          obtain ⟨p, hp, hzero⟩ := List.mem_map.mp hmem
          rw [Option.mem_toList, Option.filter_eq_some_iff] at hp
          cases h : s.swarm? hash with
          | none =>
              rw [Store.openSwarm_of_none h] at hp
              cases hp.1
          | some w =>
              have hw := hs hash w h
              rw [Store.openSwarm_eq h hw.live] at hp hzero
              exact hw.counted.counter_ne_zero (hsmall hash w h) hp.1 hzero
      | drop hash id provider =>
          obtain ⟨w, hw, hzero⟩ := List.mem_flatMap.mp hmem
          exact hswarm hash w _ (Option.mem_toList.mp hw) hzero
      | trim now timeout =>
          obtain ⟨w, hw, hzero⟩ := List.mem_flatMap.mp hmem
          obtain ⟨hash, hget⟩ := (Table.mem_bag s.swarms w).mp hw
          exact hswarm hash w _ hget hzero

/-! ## The counters after a run -/

/-- **The counters of a swarm are a recount.** After any operations on an empty store, no
swarm in it carries the mark of one that has left, and a swarm of fewer than `2 ^ 32`
peers has in its counters exactly how many of its peer records are complete and how many
are not, which together are all of them; its provider records do not enter. On the way
no action takes one from a counter that is zero, provided that the swarms it finds are
of that size. -/
theorem counters_are_recounts (rules : StoreRules) (limit : Nat) (random : RandomSource)
    (ops : List Operation) :
    let start := State.fresh limit random
    let s := ops.foldl (Operation.exec rules) start
    (∀ hash w, s.swarm? hash = some w →
      w.retired = false ∧
        (w.peers.size < 2 ^ 32 →
          w.complete.toNat = w.peers.values.countP (fun p => p.complete) ∧
            w.incomplete.toNat = w.peers.values.countP (fun p => !p.complete) ∧
            w.complete.toNat + w.incomplete.toNat = w.peers.size ∧
            Store.hashStats s hash = (w.complete, w.incomplete))) ∧
      ∀ x ∈ trail rules start (ops.flatMap Operation.actions),
        x.1.Countable → 0 ∉ x.2.lowered x.1 := by
  intro start s
  have hstep : ∀ s a, s.Sound → True → (Action.exec rules s a).Sound :=
    fun s a hs _ => hs.exec s a
  obtain ⟨htrail, hend⟩ := holds_on_trail hstep (ops.flatMap Operation.actions) start
    (State.sound_fresh limit random) fun _ _ => trivial
  rw [← Operation.foldl_exec_eq] at hend
  refine ⟨?_, fun x hx hsmall => (htrail x hx).zero_notMem_lowered hsmall x.2⟩
  intro hash w hw
  obtain ⟨hcounted, hlive⟩ := hend hash w hw
  refine ⟨hlive, fun hsize => ?_⟩
  have hcomplete : w.complete.toNat = w.tally true := hcounted.toNat_counter hsize true
  have hincomplete : w.incomplete.toNat = w.tally false := hcounted.toNat_counter hsize false
  refine ⟨?_, ?_, ?_, ?_⟩
  · rw [hcomplete]
    simp [Swarm.tally, Table.bag, Multiset.coe_countP]
  · rw [hincomplete]
    simp [Swarm.tally, Table.bag, Multiset.coe_countP]
  · rw [hcomplete, hincomplete, Swarm.tally_add_tally]
  · simp only [Store.hashStats, hw]

/-- The last sweep of the sample run lowers one counter, and that counter is one. -/
theorem counters_are_recounts_sample_run :
    let start := State.fresh 50 (.ofList [])
    let s := sampleRun.foldl (Operation.exec ⟨2, false⟩) start
    (∃ w, s.swarm? .zero = some w ∧ w.retired = false ∧ w.peers.size = 2 ∧
      w.complete.toNat = w.peers.values.countP (fun p => p.complete)) ∧
      ∃ x ∈ trail ⟨2, false⟩ start (sampleRun.flatMap Operation.actions),
        x.1.Countable ∧ x.2.lowered x.1 = [1] ∧ 0 ∉ x.2.lowered x.1 := by
  intro start s
  have hrun := counters_are_recounts ⟨2, false⟩ 50 (.ofList []) sampleRun
  constructor
  · have hsome : (s.swarm? .zero).isSome = true := by decide +kernel
    have hsize : ∀ w, s.swarm? .zero = some w → w.peers.size = 2 := by decide +kernel
    obtain ⟨w, hw⟩ := Option.isSome_iff_exists.mp hsome
    have hsmall : w.peers.size < 2 ^ 32 := by
      rw [hsize w hw]
      decide
    obtain ⟨hlive, hcounts⟩ := hrun.1 .zero w hw
    exact ⟨w, hw, hlive, hsize w hw, (hcounts hsmall).1⟩
  · -- what the state before the sweep is need not be known, only these facts about it
    have hbefore : ∃ before : State, (before, Action.command (.trim 5 2)) ∈
          trail ⟨2, false⟩ start (sampleRun.flatMap Operation.actions) ∧
        (∀ e ∈ before.swarms.entries, e.2.peers.size < 2 ^ 32) ∧
        (Action.command (.trim 5 2)).lowered before = [1] := by
      refine ⟨(sampleRun.take 4).foldl (Operation.exec ⟨2, false⟩) start, ?_, ?_, ?_⟩
      · have hsplit : sampleRun.flatMap Operation.actions =
            (sampleRun.take 4).flatMap Operation.actions ++
              Action.command (.trim 5 2) :: (sampleRun.drop 5).flatMap Operation.actions := by
          simp [sampleRun, Operation.actions]
        have hmem := mem_trail ⟨2, false⟩ start ((sampleRun.take 4).flatMap Operation.actions)
          (.command (.trim 5 2)) ((sampleRun.drop 5).flatMap Operation.actions)
        rw [← hsplit, ← Operation.foldl_exec_eq] at hmem
        exact hmem
      · decide +kernel
      · decide +kernel
    obtain ⟨before, hmem, hsizes, hlowered⟩ := hbefore
    have hsmall : before.Countable := by
      intro hash w hw
      exact hsizes (hash, w) ((Table.get?_eq_some_iff _ _ _).mp hw)
    exact ⟨(before, .command (.trim 5 2)), hmem, hsmall, hlowered, hrun.2 _ hmem hsmall⟩

end PeerTracker
