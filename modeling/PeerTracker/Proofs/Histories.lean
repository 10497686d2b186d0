import Mathlib.Order.Bounds.Basic
import PeerTracker.Proofs.Records

/-!
# The store against a plain history

What a tracker should know of a peer on a hash can be read off its commands alone.
`History.reports` are the peer's reports there since it was last removed, the latest
first; `History.HasSwarm` tells whether the hash has a swarm. `State.Refines` is the
simulation: in a store that the commands have made, a record sums up those reports, and
there is one only if there are any. Sweeps do not name whom they remove, so the history
has to tell: a sweep removes a peer when its latest report is too old.
-/

namespace PeerTracker

/-- The commands of a run, the earliest first. -/
abbrev History := List Command

/-! ## Reading a history -/

namespace Command

/-- Whether a command writes over the record that the report `u` left of a peer on a
hash, or removes it. -/
def Overrides (hash : InfoHash) (id : PeerId) (u : Update) : Command → Prop
  | save h i _ => h = hash ∧ i = id
  | drop h i _ => h = hash ∧ i = id
  | trim now timeout => timeout < now - u.now

/-- What a command makes of the reports of a peer on a hash since its last removal. -/
def next (hash : InfoHash) (id : PeerId) (reports : List Update) : Command → List Update
  | save h i u => if h = hash ∧ i = id then u :: reports else reports
  | drop h i _ => if h = hash ∧ i = id then [] else reports
  | trim now timeout => if reports.head?.any fun u => timeout < now - u.now then [] else reports

theorem next_eq_cons_iff (hash : InfoHash) (id : PeerId) (reports : List Update) (c : Command)
    (u : Update) (us : List Update) :
    c.next hash id reports = u :: us ↔
      c = save hash id u ∧ reports = us ∨ reports = u :: us ∧ ¬c.Overrides hash id u := by
  cases c with
  | save h i v =>
      by_cases hsame : h = hash ∧ i = id
      · obtain ⟨rfl, rfl⟩ := hsame
        simp [next, Overrides]
      · simp only [next, Overrides, if_neg hsame, save.injEq]
        constructor
        · exact fun hr => Or.inr ⟨hr, hsame⟩
        · rintro (⟨⟨hh, hi, _⟩, _⟩ | ⟨hr, _⟩)
          · exact absurd ⟨hh, hi⟩ hsame
          · exact hr
  | drop h i provider =>
      by_cases hsame : h = hash ∧ i = id
      · simp [next, Overrides, hsame]
      · simp [next, Overrides, hsame]
  | trim now timeout =>
      cases reports with
      | nil => simp [next]
      | cons v vs =>
          by_cases hold : timeout < now - v.now
          · simp only [next, List.head?_cons, Option.any_some, hold, decide_true, if_true,
              Overrides, reduceCtorEq, false_and, false_or, false_iff]
            rintro ⟨heq, hnew⟩
            cases heq
            exact hnew hold
          · simp only [next, List.head?_cons, Option.any_some, hold, decide_false, Overrides,
              reduceCtorEq, false_and, false_or]
            constructor
            · intro heq
              cases heq
              exact ⟨rfl, hold⟩
            · exact fun h => h.1

end Command

namespace History

/-- The reports of a peer on a hash since it was last removed there, the latest first. -/
def reports (hash : InfoHash) (id : PeerId) (cmds : History) : List Update :=
  cmds.foldl (Command.next hash id) []

/-- The latest save of a peer on a hash reported `u`, and no removal came after it. -/
def Stands (hash : InfoHash) (id : PeerId) (u : Update) (cmds : History) : Prop :=
  ∃ before after, cmds = before ++ .save hash id u :: after ∧
    ∀ c ∈ after, ¬Command.Overrides hash id u c

/-- There was a save on a hash, and every sweep since then found a peer to keep there. -/
def HasSwarm (hash : InfoHash) (cmds : History) : Prop :=
  ∃ before id u after, cmds = before ++ .save hash id u :: after ∧
    ∀ mid now timeout rest, after = mid ++ .trim now timeout :: rest →
      ∃ i, reports hash i (before ++ .save hash id u :: mid ++ [.trim now timeout]) ≠ []

theorem reports_snoc (hash : InfoHash) (id : PeerId) (cmds : History) (c : Command) :
    reports hash id (cmds ++ [c]) = c.next hash id (reports hash id cmds) :=
  List.foldl_append

/-- Where a list that grew at its end can be cut. -/
theorem snoc_eq_append_cons_iff {α : Type} (xs : List α) (x : α) (before : List α) (y : α)
    (after : List α) :
    xs ++ [x] = before ++ y :: after ↔
      xs = before ∧ x = y ∧ after = [] ∨
        ∃ after', after = after' ++ [x] ∧ xs = before ++ y :: after' := by
  constructor
  · intro h
    rcases List.eq_nil_or_concat' after with rfl | ⟨after', z, rfl⟩
    · obtain ⟨hxs, hx⟩ := List.append_inj' h rfl
      cases hx
      exact Or.inl ⟨hxs, rfl, rfl⟩
    · rw [← List.cons_append, ← List.append_assoc] at h
      obtain ⟨hxs, hx⟩ := List.append_inj' h rfl
      cases hx
      exact Or.inr ⟨after', rfl, hxs⟩
  · rintro (⟨rfl, rfl, rfl⟩ | ⟨after', rfl, rfl⟩)
    · rfl
    · simp

theorem stands_snoc (hash : InfoHash) (id : PeerId) (u : Update) (cmds : History)
    (c : Command) :
    Stands hash id u (cmds ++ [c]) ↔
      c = .save hash id u ∨ Stands hash id u cmds ∧ ¬c.Overrides hash id u := by
  constructor
  · rintro ⟨before, after, hsplit, hafter⟩
    rcases (snoc_eq_append_cons_iff cmds c before _ after).mp hsplit with
      ⟨_, hc, _⟩ | ⟨after', rfl, hcmds⟩
    · exact Or.inl hc
    · refine Or.inr ⟨⟨before, after', hcmds, ?_⟩, hafter c (by simp)⟩
      exact fun d hd => hafter d (List.mem_append_left _ hd)
  · rintro (rfl | ⟨⟨before, after, hcmds, hafter⟩, hc⟩)
    · exact ⟨cmds, [], rfl, fun d hd => absurd hd List.not_mem_nil⟩
    · refine ⟨before, after ++ [c], by simp [hcmds], ?_⟩
      intro d hd
      rcases List.mem_append.mp hd with hd | hd
      · exact hafter d hd
      · rw [List.mem_singleton.mp hd]
        exact hc

/-- The report that stands is the latest of those since the last removal. -/
theorem stands_iff (hash : InfoHash) (id : PeerId) (u : Update) (cmds : History) :
    Stands hash id u cmds ↔ ∃ us, reports hash id cmds = u :: us := by
  induction cmds using List.reverseRecOn with
  | nil =>
      constructor
      · rintro ⟨before, after, hsplit, _⟩
        simp at hsplit
      · rintro ⟨us, hus⟩
        cases hus
  | append_singleton cmds c ih =>
      -- the last command is a save that stands, or lets stand what did before it
      rw [stands_snoc, ih]
      simp only [reports_snoc, Command.next_eq_cons_iff]
      constructor
      · rintro (hc | ⟨⟨us, hus⟩, hc⟩)
        · exact ⟨_, Or.inl ⟨hc, rfl⟩⟩
        · exact ⟨us, Or.inr ⟨hus, hc⟩⟩
      · rintro ⟨us, ⟨hc, _⟩ | ⟨hus, hc⟩⟩
        · exact Or.inl hc
        · exact Or.inr ⟨⟨us, hus⟩, hc⟩

theorem hasSwarm_snoc (hash : InfoHash) (cmds : History) (c : Command) :
    HasSwarm hash (cmds ++ [c]) ↔
      (∃ id u, c = .save hash id u) ∨
        HasSwarm hash cmds ∧ ∀ now timeout, c = .trim now timeout →
          ∃ i, reports hash i (cmds ++ [c]) ≠ [] := by
  constructor
  · rintro ⟨before, id, u, after, hsplit, hkept⟩
    rcases (snoc_eq_append_cons_iff cmds c before _ after).mp hsplit with
      ⟨_, hc, _⟩ | ⟨after', rfl, hcmds⟩
    · exact Or.inl ⟨id, u, hc⟩
    · -- the save came before `c`; whether a sweep `c` kept somebody is the only news
      right
      constructor
      · refine ⟨before, id, u, after', hcmds, ?_⟩
        rintro mid now timeout rest rfl
        exact hkept mid now timeout (rest ++ [c]) (by simp)
      · rintro now timeout rfl
        have hlast := hkept after' now timeout [] rfl
        rw [← hcmds] at hlast
        exact hlast
  · rintro (⟨id, u, rfl⟩ | ⟨⟨before, id, u, after, hcmds, hkept⟩, hlast⟩)
    · refine ⟨cmds, id, u, [], rfl, ?_⟩
      intro mid now timeout rest hsplit
      simp at hsplit
    · refine ⟨before, id, u, after ++ [c], by simp [hcmds], ?_⟩
      intro mid now timeout rest hsplit
      rcases (snoc_eq_append_cons_iff after c mid _ rest).mp hsplit with
        ⟨rfl, hc, _⟩ | ⟨rest', _, hafter⟩
      · rw [hc, hcmds] at hlast
        exact hlast now timeout rfl
      · exact hkept mid now timeout rest' hafter

end History

/-! ## Records and reports -/

/-- What a record says of a peer is what these reports say, the latest and those before
it: the latest as it is, and of the totals the greatest. -/
structure Peer.Summarizes (p : Peer) (latest : Update) (earlier : List Update) : Prop where
  ip : p.ip = latest.ip
  port : p.port = latest.port
  complete : p.complete = latest.complete
  lastSeen : p.lastSeen = latest.now
  uploaded : IsGreatest {n | ∃ u ∈ latest :: earlier, u.uploaded = n} p.uploaded
  downloaded : IsGreatest {n | ∃ u ∈ latest :: earlier, u.downloaded = n} p.downloaded

/-- A record that fits the reports: none for none. -/
def Fits : Option Peer → List Update → Prop
  | none, [] => True
  | some p, u :: us => p.Summarizes u us
  | _, _ => False

theorem isGreatest_maxTotal {f : Update → UInt64} {us : List Update} {n : UInt64}
    (h : IsGreatest {m | ∃ u ∈ us, f u = m} n) (u : Update) :
    IsGreatest {m | ∃ v ∈ u :: us, f v = m} (Peer.maxTotal n (f u)) := by
  obtain ⟨⟨w, hw, hwn⟩, hbound⟩ := h
  have hrest : ∀ v ∈ us, f v ≤ n := fun v hv => hbound ⟨v, hv, rfl⟩
  unfold Peer.maxTotal
  split
  · next hlt =>
    refine ⟨⟨u, List.mem_cons_self, rfl⟩, ?_⟩
    rintro _ ⟨v, hv, rfl⟩
    rcases List.mem_cons.mp hv with rfl | hv
    · exact UInt64.le_refl _
    · exact UInt64.le_trans (hrest v hv) (UInt64.le_of_lt hlt)
  · next hle =>
    refine ⟨⟨w, List.mem_cons_of_mem _ hw, hwn⟩, ?_⟩
    rintro _ ⟨v, hv, rfl⟩
    rcases List.mem_cons.mp hv with rfl | hv
    · exact UInt64.not_lt.mp hle
    · exact hrest v hv

theorem isGreatest_maxTotal_zero (f : Update → UInt64) (u : Update) :
    IsGreatest {m | ∃ v ∈ [u], f v = m} (Peer.maxTotal 0 (f u)) := by
  have hmax : Peer.maxTotal 0 (f u) = f u := by
    unfold Peer.maxTotal
    split
    · rfl
    · next hle => exact UInt64.le_antisymm UInt64.zero_le (UInt64.not_lt.mp hle)
  rw [hmax]
  refine ⟨⟨u, List.mem_cons_self, rfl⟩, ?_⟩
  rintro _ ⟨v, hv, rfl⟩
  rw [List.mem_singleton.mp hv]
  exact UInt64.le_refl _

/-- A report over a record that fits, or over a blank one if there is none, fits. -/
theorem Fits.save {p : Option Peer} {us : List Update} (h : Fits p us) (u : Update)
    (n : UInt32) :
    Fits (some { (p.getD .blank).apply u with leechersLastTime := n }) (u :: us) := by
  match p, us, h with
  | none, [], _ =>
      exact ⟨rfl, rfl, rfl, rfl, isGreatest_maxTotal_zero Update.uploaded u,
        isGreatest_maxTotal_zero Update.downloaded u⟩
  | some q, v :: vs, h =>
      exact ⟨rfl, rfl, rfl, rfl, isGreatest_maxTotal h.uploaded u,
        isGreatest_maxTotal h.downloaded u⟩

/-- A record expires when the latest report is too old. -/
theorem Fits.trim {p : Option Peer} {us : List Update} (h : Fits p us) (now timeout : Int64) :
    Fits (p.filter fun q => !q.isExpired now timeout)
      (if us.head?.any fun u => timeout < now - u.now then [] else us) := by
  match p, us, h with
  | none, [], _ => trivial
  | some q, v :: vs, h =>
      have hexpired : q.isExpired now timeout = decide (timeout < now - v.now) := by
        rw [Peer.isExpired, h.lastSeen]
      by_cases hold : timeout < now - v.now
      · rw [Option.filter_some_neg (by simp [hexpired, hold]), if_pos (by simp [hold])]
        trivial
      · rw [Option.filter_some_pos (by simp [hexpired, hold]), if_neg (by simp [hold])]
        exact h

theorem Fits.isSome_iff {p : Option Peer} {us : List Update} (h : Fits p us) :
    p.isSome ↔ us ≠ [] := by
  match p, us, h with
  | none, [], _ => simp
  | some _, _ :: _, _ => simp

/-! ## The simulation -/

/-- A store that knows what a history says, in live swarms and with blank spare
records. -/
structure State.Refines (s : State) (cmds : History) : Prop where
  sound : s.Sound
  clean : s.pools.Clean
  fits : ∀ hash id, Fits (s.record? hash id) (cmds.reports hash id)
  swarms : ∀ hash, (s.swarm? hash).isSome ↔ cmds.HasSwarm hash

namespace State

theorem refines_fresh (limit : Nat) (random : RandomSource) :
    (fresh limit random).Refines [] where
  sound := sound_fresh limit random
  clean := fun _ hx => absurd hx List.not_mem_nil
  fits := fun _ _ => trivial
  swarms := by
    intro hash
    constructor
    · intro h
      cases h
    · rintro ⟨before, _, _, after, hsplit, _⟩
      simp at hsplit

variable (rules : StoreRules) {s : State} {cmds : History} (h : s.Refines cmds)
include h

theorem Refines.save (hash : InfoHash) (id : PeerId) (u : Update) :
    (Store.save rules s hash id u).2.Refines (cmds ++ [.save hash id u]) where
  sound := Store.sound_save rules h.sound hash id u
  clean := Store.pools_save Pools.peerStable_clean rules h.clean hash id u
  fits := by
    intro k i
    -- a new record may be one that another peer had: `clean` is needed here
    obtain ⟨n, hrecord⟩ := Store.record?_save rules h.sound h.clean hash id u k i
    rw [hrecord, History.reports_snoc, Command.next]
    by_cases hsame : k = hash ∧ i = id
    · obtain ⟨rfl, rfl⟩ := hsame
      rw [if_pos ⟨rfl, rfl⟩, if_pos ⟨rfl, rfl⟩]
      exact (h.fits k i).save u n
    · rw [if_neg hsame, if_neg (fun e => hsame ⟨e.1.symm, e.2.symm⟩)]
      exact h.fits k i
  swarms := by
    intro k
    rw [Store.isSome_swarm?_save, History.hasSwarm_snoc, h.swarms]
    constructor
    · rintro (rfl | hhas)
      · exact Or.inl ⟨id, u, rfl⟩
      · exact Or.inr ⟨hhas, fun _ _ hc => by cases hc⟩
    · rintro (⟨_, _, hc⟩ | ⟨hhas, _⟩)
      · cases hc
        exact Or.inl rfl
      · exact Or.inr hhas

theorem Refines.drop (hash : InfoHash) (id : PeerId) (provider : Bool) :
    (Store.drop rules s hash id provider).Refines (cmds ++ [.drop hash id provider]) where
  sound := Store.sound_drop rules h.sound hash id provider
  clean := Store.pools_drop Pools.peerStable_clean rules h.clean hash id provider
  fits := by
    intro k i
    rw [Store.record?_drop, History.reports_snoc, Command.next]
    by_cases hsame : k = hash ∧ i = id
    · rw [if_pos hsame, if_pos ⟨hsame.1.symm, hsame.2.symm⟩]
      trivial
    · rw [if_neg hsame, if_neg (fun e => hsame ⟨e.1.symm, e.2.symm⟩)]
      exact h.fits k i
  swarms := by
    intro k
    rw [Store.isSome_swarm?_drop, History.hasSwarm_snoc, h.swarms]
    constructor
    · exact fun hhas => Or.inr ⟨hhas, fun _ _ hc => by cases hc⟩
    · rintro (⟨_, _, hc⟩ | ⟨hhas, _⟩)
      · cases hc
      · exact hhas

theorem Refines.trim (now timeout : Int64) :
    (Store.trim rules s now timeout).2.Refines (cmds ++ [.trim now timeout]) := by
  have hfits : ∀ k i, Fits ((Store.trim rules s now timeout).2.record? k i)
      (History.reports k i (cmds ++ [.trim now timeout])) := by
    intro k i
    rw [Store.record?_trim, History.reports_snoc]
    exact (h.fits k i).trim now timeout
  refine ⟨Store.sound_trim rules h.sound now timeout,
    Store.pools_trim Pools.peerStable_clean rules h.clean now timeout, hfits, ?_⟩
  intro k
  rw [Store.isSome_swarm?_trim rules h.sound, History.hasSwarm_snoc]
  constructor
  · rintro ⟨i, hi⟩
    right
    -- a record that outlives the sweep was there before it, and its swarm too
    have hbefore : (s.record? k i).isSome := by
      rw [Store.record?_trim] at hi
      exact Option.isSome_of_isSome_filter _ _ hi
    refine ⟨(h.swarms k).mp (isSome_record?_swarm? hbefore), ?_⟩
    intro _ _ _
    exact ⟨i, (hfits k i).isSome_iff.mp hi⟩
  · rintro (⟨_, _, hc⟩ | ⟨_, hkept⟩)
    · cases hc
    · obtain ⟨i, hi⟩ := hkept now timeout rfl
      exact ⟨i, (hfits k i).isSome_iff.mpr hi⟩

theorem Refines.exec (c : Command) : (c.exec rules s).Refines (cmds ++ [c]) := by
  cases c with
  | save hash id u => exact h.save rules hash id u
  | drop hash id provider => exact h.drop rules hash id provider
  | trim now timeout => exact h.trim rules now timeout

end State

/-- The store that the commands of a history make knows what the history says. -/
theorem refines_run (rules : StoreRules) (limit : Nat) (random : RandomSource)
    (cmds : History) :
    (cmds.foldl (Command.exec rules) (State.fresh limit random)).Refines cmds := by
  induction cmds using List.reverseRecOn with
  | nil => exact State.refines_fresh limit random
  | append_singleton cmds c ih =>
      rw [List.foldl_append]
      exact ih.exec rules c

/-! ## Reading the store -/

theorem Store.baselineProvider_swarms (s : State) (hash : InfoHash) (compact withIds : Bool) :
    (baselineProvider s hash compact withIds).2.swarms = s.swarms :=
  (steady_baselineProvider s hash compact withIds).swarms

/-- **The store refines a plain history.** After any commands on an empty store, and for
every peer and hash: the store has a main record of the peer exactly if no removal came
after its latest save, and never two; the record has the address, the port, the kind and
the time of that save, and as totals the greatest that the peer reported since its last
removal. A hash has a swarm exactly if every sweep since some save on it found a peer to
keep. A drop creates no swarm and removes none, and picking a provider, the one read
that returns a state, changes none. -/
theorem store_refines_history (rules : StoreRules) (limit : Nat) (random : RandomSource)
    (cmds : History) (hash : InfoHash) (id : PeerId) :
    let s := cmds.foldl (Command.exec rules) (State.fresh limit random)
    (s.recordsOf hash id ≠ [] ↔ ∃ u, cmds.Stands hash id u) ∧
      (s.recordsOf hash id).length ≤ 1 ∧
      (∀ p ∈ s.recordsOf hash id, ∃ u us, cmds.Stands hash id u ∧
        cmds.reports hash id = u :: us ∧ p.Summarizes u us) ∧
      ((s.swarm? hash).isSome ↔ cmds.HasSwarm hash) ∧
      (∀ h i provider,
        ((Store.drop rules s h i provider).swarm? hash).isSome = (s.swarm? hash).isSome) ∧
      ∀ h compact withIds, (Store.baselineProvider s h compact withIds).2.swarms = s.swarms := by
  intro s
  have hrun : s.Refines cmds := refines_run rules limit random cmds
  have hfits := hrun.fits hash id
  rw [State.recordsOf_eq]
  refine ⟨?_, ?_, ?_, hrun.swarms hash, ?_, fun h => Store.baselineProvider_swarms s h⟩
  · have hsome : (s.record? hash id).toList ≠ [] ↔ (s.record? hash id).isSome := by
      cases s.record? hash id <;> simp
    rw [hsome, hfits.isSome_iff, List.ne_nil_iff_exists_cons]
    exact exists_congr fun u => (History.stands_iff hash id u cmds).symm
  · cases s.record? hash id <;> simp
  · intro p hp
    rw [Option.mem_toList] at hp
    rw [hp] at hfits
    match hreports : cmds.reports hash id, hfits with
    | u :: us, hfits =>
        exact ⟨u, us, (History.stands_iff hash id u cmds).mpr ⟨us, hreports⟩, rfl, hfits⟩
  · intro h i provider
    exact Store.isSome_swarm?_drop rules h i provider hash

/-- A peer reports a lot and is dropped; its record is used again, for another peer and
for a second life of its own. -/
def sampleHistory : History :=
  [.save .zero .zero { sampleReport true 1 with uploaded := 900 }, .drop .zero .zero false,
    .save .zero otherId (sampleReport false 2),
    .save .zero .zero { sampleReport false 3 with uploaded := 7 },
    .save .zero .zero { sampleReport true 4 with uploaded := 5 }, .trim 5 2]

/-- Of the first life nothing is left in the second. -/
theorem store_refines_history_sample :
    let s := sampleHistory.foldl (Command.exec ⟨2, false⟩) (State.fresh 50 (.ofList []))
    ∃ p ∈ s.recordsOf .zero .zero, p.uploaded = 7 ∧
      ∃ u us, sampleHistory.Stands .zero .zero u ∧
        sampleHistory.reports .zero .zero = u :: us ∧ p.Summarizes u us := by
  intro s
  have hrefines := store_refines_history ⟨2, false⟩ 50 (.ofList []) sampleHistory .zero .zero
  have hrecords : ∃ p ∈ s.recordsOf .zero .zero, p.uploaded = 7 := by decide +kernel
  obtain ⟨p, hp, huploaded⟩ := hrecords
  exact ⟨p, hp, huploaded, hrefines.2.2.1 p hp⟩

end PeerTracker
