import Mathlib.Data.List.DropRight
import PeerTracker.Proofs.Histories

/-!
# Bad actors and their history

A save is flagged by what the record it finds remembers: the greatest totals, and how many
incomplete peers there were when it was written. All of this can be read off the history.
The totals are those of `History.reports`; the number of incomplete peers is that of an
earlier history, the one up to the latest save of the same peer (`History.upToSave`), whatever
other peers have done since. `remembers_run` carries that number along a run: the save that
writes it is the last command of the history it is taken from, and no other command changes
the record or which save was the latest.
-/

namespace PeerTracker

/-- Whether a command saves a peer on a hash. -/
def Command.isSave (hash : InfoHash) (id : PeerId) : Command → Bool
  | save h i _ => decide (h = hash ∧ i = id)
  | _ => false

namespace History

/-- The peers that were ever saved on a hash, each once. -/
def savers (hash : InfoHash) (cmds : History) : List PeerId :=
  (cmds.filterMap fun
    | .save h i _ => if h = hash then some i else none
    | _ => none).dedup

/-- How many peers a hash has of which the latest report is one of an incomplete peer. -/
def leechers (hash : InfoHash) (cmds : History) : Nat :=
  (cmds.savers hash).countP fun i => (cmds.reports hash i).head?.any fun u => !u.complete

/-- The history up to the latest save of a peer on a hash, with that save. -/
def upToSave (hash : InfoHash) (id : PeerId) (cmds : History) : History :=
  cmds.rdropWhile fun c => !c.isSave hash id

/-- How many incomplete peers there were right after the latest save of a peer; zero if it
was removed since then, or never came. -/
def leechersThen (hash : InfoHash) (id : PeerId) (cmds : History) : Nat :=
  if cmds.reports hash id = [] then 0 else (cmds.upToSave hash id).leechers hash

/-- The greatest total in these reports, zero if there are none. -/
def greatest (total : Update → UInt64) (us : List Update) : Nat :=
  (us.map fun u => (total u).toNat).foldr max 0

theorem mem_savers {hash : InfoHash} {id : PeerId} {cmds : History}
    (h : cmds.reports hash id ≠ []) : id ∈ cmds.savers hash := by
  obtain ⟨u, us, hreports⟩ := List.exists_cons_of_ne_nil h
  obtain ⟨before, after, rfl, -⟩ := (stands_iff hash id u cmds).mpr ⟨us, hreports⟩
  rw [savers, List.mem_dedup, List.mem_filterMap]
  exact ⟨.save hash id u, by simp, if_pos rfl⟩

theorem greatest_eq {total : Update → UInt64} {us : List Update} {n : UInt64}
    (h : IsGreatest {m | ∃ u ∈ us, total u = m} n) : greatest total us = n.toNat := by
  have hbound : ∀ us : List Update, (∀ u ∈ us, total u ≤ n) → greatest total us ≤ n.toNat := by
    intro us hus
    induction us with
    | nil => exact Nat.zero_le _
    | cons u us ih =>
        obtain ⟨hu, hus⟩ := List.forall_mem_cons.mp hus
        exact Nat.max_le.mpr ⟨UInt64.le_iff_toNat_le.mp hu, ih hus⟩
  have hreached : ∀ us : List Update, ∀ u ∈ us, (total u).toNat ≤ greatest total us := by
    intro us u hu
    induction us with
    | nil => cases hu
    | cons v us ih =>
        rcases List.mem_cons.mp hu with rfl | hu
        · exact Nat.le_max_left _ _
        · exact (ih hu).trans (Nat.le_max_right _ _)
  obtain ⟨⟨u, hu, rfl⟩, hle⟩ := h
  exact Nat.le_antisymm (hbound us fun v hv => hle ⟨v, hv, rfl⟩) (hreached us u hu)

theorem leechers_le_length (hash : InfoHash) (cmds : History) :
    cmds.leechers hash ≤ cmds.length :=
  List.countP_le_length.trans
    ((List.dedup_sublist _).length_le.trans (List.length_filterMap_le _ _))

theorem leechersThen_le_length (hash : InfoHash) (id : PeerId) (cmds : History) :
    cmds.leechersThen hash id ≤ cmds.length := by
  unfold leechersThen
  split
  · exact Nat.zero_le _
  · exact (leechers_le_length hash _).trans (List.rdropWhile_prefix _ _).length_le

section Snoc

variable {hash : InfoHash} {id : PeerId} (cmds : History) {c : Command}

theorem leechersThen_of_isSave (h : c.isSave hash id = true) :
    leechersThen hash id (cmds ++ [c]) = (cmds ++ [c]).leechers hash := by
  have hlast : upToSave hash id (cmds ++ [c]) = cmds ++ [c] :=
    List.rdropWhile_concat_neg _ _ _ (by simp [h])
  have hreports : reports hash id (cmds ++ [c]) ≠ [] := by
    cases c with
    | save h' i' u =>
        obtain ⟨rfl, rfl⟩ := of_decide_eq_true h
        rw [reports_snoc, Command.next, if_pos ⟨rfl, rfl⟩]
        exact List.cons_ne_nil _ _
    | drop => cases h
    | trim => cases h
  rw [leechersThen, if_neg hreports, hlast]

/-- Other commands leave the number alone as long as the peer is there. -/
theorem leechersThen_of_not_isSave (h : c.isSave hash id = false)
    (hreports : reports hash id (cmds ++ [c]) ≠ []) :
    leechersThen hash id (cmds ++ [c]) = leechersThen hash id cmds := by
  have hearlier : upToSave hash id (cmds ++ [c]) = upToSave hash id cmds :=
    List.rdropWhile_concat_pos _ _ _ (by simp [h])
  have hbefore : reports hash id cmds ≠ [] := by
    obtain ⟨u, us, hcons⟩ := List.exists_cons_of_ne_nil hreports
    rw [reports_snoc, Command.next_eq_cons_iff] at hcons
    rcases hcons with ⟨rfl, -⟩ | ⟨hcons, -⟩
    · rw [Command.isSave, decide_eq_false_iff_not] at h
      exact absurd ⟨rfl, rfl⟩ h
    · rw [hcons]
      exact List.cons_ne_nil _ _
  rw [leechersThen, if_neg hreports, hearlier, leechersThen, if_neg hbefore]

end Snoc

end History

/-! ## Counting a swarm -/

theorem Store.mem_listed {s : State} {hash : InfoHash} {e : PeerId × Peer} :
    e ∈ listed s hash ↔ s.record? hash e.1 = some e.2 := by
  cases hw : s.swarm? hash with
  | none => simp [listed, State.record?, hw]
  | some w =>
      rw [listed_eq hw, State.record?, hw, Option.bind_some, Table.get?_eq_some_iff]

theorem Store.nodup_listed (s : State) (hash : InfoHash) :
    ((listed s hash).map Prod.fst).Nodup := by
  cases hw : s.swarm? hash with
  | none => simp [listed, hw]
  | some w =>
      rw [listed_eq hw]
      exact w.peers.nodup

/-- The incomplete peers of a hash are those that the history knows. -/
theorem State.Refines.headcount_eq {s : State} {cmds : History} (h : s.Refines cmds)
    (hash : InfoHash) : Store.headcount s hash false = cmds.leechers hash := by
  let isLeecher (i : PeerId) : Bool := (cmds.reports hash i).head?.any fun u => !u.complete
  have hkind : ∀ e ∈ Store.listed s hash, (e.2.complete == false) = isLeecher e.1 := by
    intro e he
    have hfits := h.fits hash e.1
    rw [Store.mem_listed.mp he] at hfits
    show _ = (cmds.reports hash e.1).head?.any _
    match cmds.reports hash e.1, hfits with
    | u :: us, hfits => rw [hfits.complete]; cases hu : u.complete <;> simp [hu]
  have hids : ((Store.listed s hash).map Prod.fst).countP isLeecher =
      (cmds.savers hash).countP isLeecher := by
    rw [List.countP_eq_length_filter, List.countP_eq_length_filter]
    refine List.Perm.length_eq ((List.perm_ext_iff_of_nodup
      ((Store.nodup_listed s hash).filter _) ((List.nodup_dedup _).filter _)).mpr fun i => ?_)
    rw [List.mem_filter, List.mem_filter, and_congr_left_iff]
    intro hi
    -- who leeches has reported, and hence is on both sides
    have hreports : cmds.reports hash i ≠ [] := by
      intro hnil
      simp [isLeecher, hnil] at hi
    obtain ⟨p, hp⟩ := Option.isSome_iff_exists.mp ((h.fits hash i).isSome_iff.mpr hreports)
    exact iff_of_true (List.mem_map.mpr ⟨(i, p), Store.mem_listed.mpr hp, rfl⟩)
      (History.mem_savers hreports)
  rw [History.leechers, ← hids, List.countP_map]
  exact List.countP_congr fun e he => by rw [hkind e he]; rfl

/-! ## What a record remembers -/

/-- A save writes into the record how many incomplete peers the swarm has with it. -/
theorem Store.leechersLastTime_save (rules : StoreRules) (s : State) (hash : InfoHash)
    (id : PeerId) (u : Update) :
    ∃ w p, (save rules s hash id u).2.swarm? hash = some w ∧ w.peers.get? id = some p ∧
      p.leechersLastTime = w.incomplete := by
  obtain ⟨t, ht⟩ := save_swarms rules s hash id u
  have hsaved := (congrArg (fun swarms => swarms.get? hash) ht).trans
    (Table.get?_insert_self _ _ _)
  exact ⟨_, _, hsaved, Table.get?_insert_self _ _ _, rfl⟩

/-- A record that a command leaves was there before, unless the command saved the peer. -/
theorem Command.record?_of_exec (rules : StoreRules) {s : State} (hs : s.Sound)
    (hclean : s.pools.Clean) {c : Command} {hash : InfoHash} {id : PeerId} {p : Peer}
    (hc : c.isSave hash id = false) (h : (c.exec rules s).record? hash id = some p) :
    s.record? hash id = some p := by
  cases c with
  | save h' i' u =>
      have hother : ¬(hash = h' ∧ id = i') := fun e =>
        of_decide_eq_false hc ⟨e.1.symm, e.2.symm⟩
      obtain ⟨n, hn⟩ := Store.record?_save rules hs hclean h' i' u hash id
      rw [if_neg hother] at hn
      exact hn.symm.trans h
  | drop h' i' provider =>
      have hdrop := (Store.record?_drop rules h' i' provider hash id).symm.trans h
      split at hdrop
      · cases hdrop
      · exact hdrop
  | trim now timeout =>
      have htrim := (Store.record?_trim rules now timeout hash id).symm.trans h
      exact (Option.filter_eq_some_iff.mp htrim).1

/-- Along a run, the record of a peer remembers the incomplete peers of its latest save. -/
theorem remembers_run (rules : StoreRules) (limit : Nat) (random : RandomSource) (cmds : History)
    {hash : InfoHash} {id : PeerId} {p : Peer}
    (h : (cmds.foldl (Command.exec rules) (State.fresh limit random)).record? hash id = some p) :
    p.leechersLastTime = UInt32.ofNat (cmds.leechersThen hash id) := by
  induction cmds using List.reverseRecOn generalizing p with
  | nil => cases h
  | append_singleton cmds c ih =>
      have hbefore := refines_run rules limit random cmds
      have hafter := refines_run rules limit random (cmds ++ [c])
      rw [List.foldl_append] at h hafter
      generalize cmds.foldl (Command.exec rules) (State.fresh limit random) = s at *
      cases hc : c.isSave hash id with
      | true =>
          cases c with
          | drop => cases hc
          | trim => cases hc
          | save h' i' u =>
              obtain ⟨rfl, rfl⟩ := of_decide_eq_true hc
              obtain ⟨w, q, hw, hq, hremembers⟩ := Store.leechersLastTime_save rules s h' i' u
              have hsaved : (Store.save rules s h' i' u).2.record? h' i' = some q := by
                rw [State.record?, hw, Option.bind_some, hq]
              obtain rfl : q = p := Option.some.inj (hsaved.symm.trans h)
              have hcounted : w.incomplete = UInt32.ofNat (w.tally false) :=
                (hafter.sound h' w hw).counted false
              rw [History.leechersThen_of_isSave cmds hc, hremembers, hcounted,
                Store.tally_eq_headcount hw]
              exact congrArg UInt32.ofNat (hafter.headcount_eq h')
      | false =>
          have hreports : History.reports hash id (cmds ++ [c]) ≠ [] :=
            (hafter.fits hash id).isSome_iff.mp (Option.isSome_of_mem h)
          rw [History.leechersThen_of_not_isSave cmds hc hreports]
          exact ih (Command.record?_of_exec rules hbefore.sound hbefore.clean hc h)

/-! ## The flag -/

/-- A record that knows these totals and this number of incomplete peers, and what it makes
of a report. -/
theorem Peer.isBadActor_iff {p : Peer} {u : Update} {minLeechers : UInt32}
    {uploaded downloaded leechers : Nat} (huploaded : p.uploaded.toNat = uploaded)
    (hdownloaded : p.downloaded.toNat = downloaded)
    (hleechers : p.leechersLastTime.toNat = leechers) :
    p.isBadActor u minLeechers = true ↔
      u.complete = false ∧ u.uploaded.toNat = uploaded ∧ downloaded < u.downloaded.toNat ∧
        minLeechers.toNat ≤ leechers := by
  subst huploaded hdownloaded hleechers
  simp only [isBadActor, Bool.and_eq_true, Bool.not_eq_true', beq_iff_eq, decide_eq_true_eq,
    UInt64.lt_iff_toNat_lt, UInt32.le_iff_toNat_le, ← UInt64.toNat_inj, and_assoc]
  exact and_congr_right fun _ => and_congr_left fun _ => eq_comm

/-- **Whether a save looks like a bad actor's is a matter of the peer's history.** After any
commands on an empty store, a save is flagged just if the peer is incomplete, reports as its
upload the greatest that it has reported on the hash since its record there was made, reports
a greater download than all of those, and there were enough incomplete peers on the hash right
after its latest save. All three are zero for a peer that has no record, which is one without
a report since its last removal. A swarm counts its peers in 32 bits, so that the number is
exact below `2 ^ 32`, and it takes as many commands to come to more. -/
theorem bad_actors_are_told_by_history (rules : StoreRules) (limit : Nat)
    (random : RandomSource) (cmds : History) (hash : InfoHash) (id : PeerId) (u : Update) :
    let s := cmds.foldl (Command.exec rules) (State.fresh limit random)
    let flagged := (Store.save rules s hash id u).1
    let reports := cmds.reports hash id
    let leechers := cmds.leechersThen hash id
    let Suspect (leechers : Nat) : Prop :=
      u.complete = false ∧ u.uploaded.toNat = History.greatest Update.uploaded reports ∧
        History.greatest Update.downloaded reports < u.downloaded.toNat ∧
        rules.minLeechers.toNat ≤ leechers
    (flagged = true ↔ Suspect (leechers % 2 ^ 32)) ∧
      (leechers < 2 ^ 32 → (flagged = true ↔ Suspect leechers)) ∧
      leechers ≤ cmds.length ∧
      (s.record? hash id = none ↔ reports = []) ∧
      ∀ h, Store.headcount s h false = cmds.leechers h := by
  intro s flagged reports leechers Suspect
  have hrun : s.Refines cmds := refines_run rules limit random cmds
  have hremembers : ∀ p, s.record? hash id = some p →
      p.leechersLastTime = UInt32.ofNat leechers :=
    fun p hp => remembers_run rules limit random cmds hp
  have hfits : Fits (s.record? hash id) reports := hrun.fits hash id
  have hrecord : s.record? hash id = none ↔ reports = [] := by
    rw [← Option.not_isSome_iff_eq_none, hfits.isSome_iff, not_not]
  have hflag : flagged = true ↔ Suspect (leechers % 2 ^ 32) := by
    show (Store.save rules s hash id u).1 = true ↔ _
    rw [Store.save_fst rules hrun.sound hrun.clean]
    cases hp : s.record? hash id with
    | none =>
        have hnil := hrecord.mp hp
        have hzero : leechers = 0 := if_pos hnil
        refine Peer.isBadActor_iff ?_ ?_ ?_
        · rw [hnil]; rfl
        · rw [hnil]; rfl
        · rw [hzero]; rfl
    | some p =>
        rw [hp] at hfits
        refine Peer.isBadActor_iff ?_ ?_ ?_
        · match reports, hfits with
          | _ :: _, hfits => exact (History.greatest_eq hfits.uploaded).symm
        · match reports, hfits with
          | _ :: _, hfits => exact (History.greatest_eq hfits.downloaded).symm
        · rw [Option.getD_some, hremembers p hp, UInt32.toNat_ofNat']
  refine ⟨hflag, fun hsmall => ?_, History.leechersThen_le_length hash id cmds, hrecord,
    hrun.headcount_eq⟩
  rw [hflag, Nat.mod_eq_of_lt hsmall]

/-- A leecher that has gone by now still counts, and an upload that a later report fell short
of is still the greatest. -/
theorem bad_actors_are_told_by_history_sample :
    let s := sampleHistory.foldl (Command.exec ⟨1, false⟩) (State.fresh 50 (.ofList []))
    let u := { sampleReport false 6 with uploaded := 7, downloaded := 21 }
    sampleHistory.leechers .zero = 0 ∧ sampleHistory.leechersThen .zero .zero = 1 ∧
      sampleHistory.leechersThen .zero .zero < 2 ^ 32 ∧
      (Store.save ⟨1, false⟩ s .zero .zero u).1 = true := by
  intro s u
  have hleechers : sampleHistory.leechersThen .zero .zero = 1 := by decide +kernel
  have hsmall : sampleHistory.leechersThen .zero .zero < 2 ^ 32 := by
    rw [hleechers]
    decide
  refine ⟨by decide +kernel, hleechers, hsmall, ?_⟩
  have hhistory := bad_actors_are_told_by_history ⟨1, false⟩ 50 (.ofList []) sampleHistory .zero
    .zero u
  refine (hhistory.2.1 hsmall).mpr ⟨rfl, by decide +kernel, by decide +kernel, ?_⟩
  rw [hleechers]
  decide

end PeerTracker
