import PeerTracker.Proofs.Arising
import PeerTracker.Proofs.FastMode

/-!
# Twins

Two trackers that are alike but for fast mode, and are asked the same, are twins: what the one
in fast mode comes to is what the other comes to without its totals (`Twins.eq_untallied`). The
other keeps its totals balanced all the while, since demands change them by their actions only.
-/

namespace PeerTracker

/-! ## Recounts -/

/-- There are never `2 ^ 32` records while the demand is met. -/
def Demand.Narrow (rules : Rules) (s : State) (d : Demand) : Prop :=
  ∀ x ∈ trail rules.store s (d.actions rules), x.2.held x.1 < 2 ^ 32

/-- What an announce does is one command at the most. -/
theorem Announce.length_actions_le (r : Rules) (q : Announcement) (now : Int64) :
    (actions r q now).length ≤ 1 := by
  unfold actions
  split
  · exact Nat.zero_le 1
  · exact Nat.le_refl 1

/-- So is what any demand does that loads no snapshot. -/
theorem Demand.length_actions_le (rules : Rules) {d : Demand} (h : ∀ bs, d ≠ .restore bs) :
    (d.actions rules).length ≤ 1 := by
  have hannounced : ∀ q? : Option (Announcement × Int64),
      (q?.elim [] fun a => Announce.actions rules a.1 a.2).length ≤ 1 := by
    intro q?
    cases q? with
    | none => exact Nat.zero_le 1
    | some a => exact Announce.length_actions_le rules a.1 a.2
  cases d with
  | restore bs => exact absurd rfl (h bs)
  | sweep now => exact Nat.le_refl 1
  | announce q now recycled => exact hannounced (some (q, now))
  | scrape hashes => exact hannounced none
  | overflow => exact hannounced none
  | web realIp r now => exact hannounced ((Http.announcement? realIp r).map (·, now))
  | datagram remote usePayloadIp now bs =>
      exact hannounced ((Udp.announcement? rules remote usePayloadIp now bs).map (·, now))

theorem Action.held_eq {s t : State} (h : t.swarms = s.swarms) (a : Action) :
    a.held t = a.held s := by
  cases a <;> rw [held, held, State.records, State.records, h]

section Recounts

variable {rules : Rules} (hfast : rules.store.fast = false)
include hfast

theorem Leads.countsOnlyRecords {Allowed : Demand → Prop} {s t : State}
    (h : Leads rules Allowed s t) (hs : s.Sound ∧ s.CountsOnlyRecords) :
    t.Sound ∧ t.CountsOnlyRecords := by
  refine h.keeps (P := fun t => t.Sound ∧ t.CountsOnlyRecords) ?_ ?_ ?_ hs
  · rintro s t hsteady ⟨hsound, hcounts⟩
    exact ⟨hsteady.sound hsound, hsteady.sameStore.countsOnlyRecords hcounts⟩
  · exact fun s _ _ a _ hs => Stats.kept_countsOnly.exec hfast s a hs trivial
  · rintro s t hreordered ⟨hsound, hcounts⟩
    exact ⟨hreordered.sound hsound, hreordered.countsOnlyRecords hcounts⟩

/-- A demand that never comes to too many records keeps the totals balanced. -/
theorem Demand.balanced_exec {s : State} {d : Demand} (hnarrow : d.Narrow rules s)
    (hs : s.Sound ∧ s.Balanced) : (d.exec rules s).Sound ∧ (d.exec rules s).Balanced := by
  have hsteady : ∀ {s t : State}, s.Steady t → s.Sound ∧ s.Balanced → t.Sound ∧ t.Balanced :=
    fun h hs => ⟨h.sound hs.1, h.sameStore.balanced hs.2⟩
  by_cases hrestore : ∃ bs, d = .restore bs
  · obtain ⟨bs, rfl⟩ := hrestore
    have hrun := holds_on_trail (State.Balanced.exec hfast) _ s hs hnarrow
    have hexec : (restore bs).exec rules s = (Operation.restore bs).exec rules.store s := rfl
    rw [hexec, Operation.exec_eq]
    exact hrun.2
  · have hlength := length_actions_le rules (not_exists.mp hrestore)
    obtain ⟨t, ht, hend⟩ := d.performs rules s
    refine hsteady hend ?_
    unfold Narrow at hnarrow
    match hactions : d.actions rules with
    | [] => exact hsteady ht hs
    | [a] =>
        rw [hactions] at hnarrow
        have hheld : a.held t < 2 ^ 32 := by
          rw [a.held_eq ht.swarms]
          exact hnarrow (s, a) List.mem_cons_self
        exact State.Balanced.exec hfast t a (hsteady ht hs) hheld
    | _ :: _ :: _ =>
        rw [hactions] at hlength
        simp at hlength

end Recounts

/-! ## Twins -/

/-- Two trackers, one in fast mode and one not, come to these states: both start afresh, meet
the same demands, each of them allowed where it is met, and find the swarms in the same order. -/
inductive Twins (fast slow : Rules) (Allowed : State → Demand → Prop) (f₀ s₀ : State) :
    State → State → Prop where
  | refl : Twins fast slow Allowed f₀ s₀ f₀ s₀
  | serve {f s : State} (d : Demand) :
      Twins fast slow Allowed f₀ s₀ f s → Allowed s d →
      Twins fast slow Allowed f₀ s₀ (d.exec fast f) (d.exec slow s)
  | reorder {f s : State} (swarms : Table InfoHash Swarm) :
      Twins fast slow Allowed f₀ s₀ f s → s.Reordered { s with swarms := swarms } →
      Twins fast slow Allowed f₀ s₀ { f with swarms := swarms } { s with swarms := swarms }

namespace Twins

variable {rules : Rules} {Allowed : State → Demand → Prop} {s₀ f s : State}

theorem eq_untallied (h : Twins rules.quick rules Allowed s₀.untallied s₀ f s) :
    f = s.untallied := by
  induction h with
  | refl => rfl
  | serve d _ _ ih => rw [ih, d.exec_quick]
  | reorder swarms _ _ ih => rw [ih]; rfl

theorem leads {f₀ : State} {fast : Rules} (h : Twins fast rules Allowed f₀ s₀ f s) :
    Reachable rules s₀ s := by
  induction h with
  | refl => exact .refl
  | serve d _ _ ih => exact .serve d ih trivial
  | reorder swarms _ hreordered ih => exact .reorder ih hreordered

theorem balanced {f₀ : State} {fast : Rules} (h : Twins fast rules Allowed f₀ s₀ f s)
    (hfast : rules.store.fast = false) (hallowed : ∀ s d, Allowed s d → d.Narrow rules s)
    (hs : s₀.Sound ∧ s₀.Balanced) : s.Sound ∧ s.Balanced := by
  induction h with
  | refl => exact hs
  | serve d _ hd ih => exact d.balanced_exec hfast (hallowed _ d hd) ih
  | reorder swarms _ hreordered ih => exact ⟨hreordered.sound ih.1, hreordered.balanced ih.2⟩

end Twins

/-! ## Fast mode is bookkeeping -/

/-- The same settings, fast mode on or off. -/
def Settings.withFastMode (settings : Settings) (on : Bool) : Settings :=
  { settings with tracker := { settings.tracker with fastMode := on } }

theorem Stats.read_untallied (st : Stats) {c : Counter} (hseeds : c ≠ .seeds)
    (hleeches : c ≠ .leeches) : st.untallied.read c = st.read c := by
  cases c with
  | seeds => exact absurd rfl hseeds
  | leeches => exact absurd rfl hleeches
  | _ => rfl

/-- **Fast mode changes only bookkeeping.** Take two trackers whose settings differ in fast mode
alone, with the same secret and the same source of random numbers. After any demands, the same of
both, and whatever the order in which both find their swarms: they say the same to any further
demand, except to one for the published figures; a reply is gathered the same in any order; they
save the same snapshot; they have the same swarms, pools and random numbers; and all their
counters are the same but for the totals of peers and the counts of addresses. Those are zero in
fast mode, and otherwise a recount of the records, exactly so if there never were `2 ^ 32`. -/
theorem fast_mode_is_bookkeeping (settings : Settings) (secret : Bytes) (random : RandomSource)
    {Allowed : State → Demand → Prop} {f s : State}
    (h : Twins (.ofSettings (settings.withFastMode true) secret)
      (.ofSettings (settings.withFastMode false) secret) Allowed
      (.ofSettings (settings.withFastMode true) random)
      (.ofSettings (settings.withFastMode false) random) f s) :
    let fast := Rules.ofSettings (settings.withFastMode true) secret
    let slow := Rules.ofSettings (settings.withFastMode false) secret
    (∀ d : Demand, ¬d.AsksFigures → d.outcome fast f = d.outcome slow s) ∧
      (∀ q hash id u wanted swarms,
        let quick := Announce.enroll fast (f.count .announces 1) hash id u
        let full := Announce.enroll slow (s.count .announces 1) hash id u
        quick.1 = full.1 ∧
          (Announce.answer fast q hash u wanted quick.1 { quick.2 with swarms := swarms }).1 =
            (Announce.answer slow q hash u wanted full.1 { full.2 with swarms := swarms }).1) ∧
      Snapshot.encode (Store.snapshot f) = Snapshot.encode (Store.snapshot s) ∧
      (f.swarms = s.swarms ∧ f.pools = s.pools ∧ f.random = s.random) ∧
      (f.stats.started = s.stats.started ∧
        ∀ c, c ≠ .seeds → c ≠ .leeches → f.stats.read c = s.stats.read c) ∧
      (f.stats.seeds = 0 ∧ f.stats.leeches = 0 ∧ f.stats.addresses = ∅ ∧ f.stats.uniqueIps = 0) ∧
      (s.stats.seeds = Int64.ofNat (s.records.countP fun p => p.complete = true) ∧
        s.stats.leeches = Int64.ofNat (s.records.countP fun p => p.complete = false)) ∧
      ((∀ t d, Allowed t d → d.Narrow slow t) → s.records.length < 2 ^ 32 → s.Recounted) := by
  intro fast slow
  have hfast : slow.store.fast = false := rfl
  -- the one tracker is the other in fast mode, and neither has anything to tally at first
  have htwins : Twins slow.quick slow Allowed
      (State.ofSettings (settings.withFastMode false) random).untallied
      (State.ofSettings (settings.withFastMode false) random) f s := h
  have heq : f = s.untallied := htwins.eq_untallied
  have hcounts : s.CountsOnlyRecords := (h.leads.countsOnlyRecords hfast
    ⟨State.sound_fresh _ random, (State.balanced_fresh _ random).countsOnly⟩).2
  subst heq
  refine ⟨fun d hd => d.outcome_quick slow s hd, ?_, rfl, ⟨rfl, rfl, rfl⟩, ⟨rfl, ?_⟩,
    ⟨rfl, rfl, rfl, rfl⟩, ⟨hcounts.kinds_records true, hcounts.kinds_records false⟩, ?_⟩
  · intro q hash id u wanted swarms quick full
    have henroll : quick = untally full := by
      show Announce.enroll slow.quick (s.untallied.count .announces 1) hash id u = _
      rw [s.untallied_count (by decide), Announce.enroll_quick]
    have hanswer := congrArg Prod.fst
      (Announce.answer_untallied slow q { full.2 with swarms := swarms } hash u wanted full.1)
    rw [henroll]
    exact ⟨rfl, hanswer⟩
  · exact fun c hseeds hleeches => s.stats.read_untallied hseeds hleeches
  · intro hallowed hend
    exact (h.balanced hfast hallowed
      ⟨State.sound_fresh _ random, State.balanced_fresh _ random⟩).2.recounted hend

/-- A peer with everything joins: it is a seed at one address, except in fast mode. -/
theorem fast_mode_is_bookkeeping_one_seed :
    let fast := Rules.ofSettings (Settings.withFastMode {} true) []
    let slow := Rules.ofSettings (Settings.withFastMode {} false) []
    let start := State.ofSettings {} (.ofList [])
    let d := Demand.announce (sampleAnnouncement .zero) 1 true
    let f := d.exec fast start
    let s := d.exec slow start
    Twins fast slow (fun s d => d.Narrow slow s) start start f s ∧
      (Demand.sweep 2).outcome fast f = (Demand.sweep 2).outcome slow s ∧
      f.stats.seeds = 0 ∧ f.stats.uniqueIps = 0 ∧ s.Recounted ∧ s.records.length = 1 := by
  intro fast slow start d f s
  have hnarrow : d.Narrow slow start := by
    show ∀ x ∈ trail slow.store start (d.actions slow), x.2.held x.1 < 2 ^ 32
    decide +kernel
  have htwins : Twins fast slow (fun s d => d.Narrow slow s) start start f s :=
    .serve d .refl hnarrow
  obtain ⟨houtcome, -, -, -, -, ⟨hseeds, -, -, hips⟩, -, hrecounted⟩ :=
    fast_mode_is_bookkeeping {} [] (.ofList []) htwins
  have hlength : s.records.length = 1 := by decide +kernel
  refine ⟨htwins, houtcome (.sweep 2) id, hseeds, hips, ?_, hlength⟩
  exact hrecounted (fun _ _ hd => hd) (by rw [hlength]; decide)

end PeerTracker
