import PeerTracker.Proofs.Arising

/-!
# What a sweep leaves

A sweep takes out of each swarm the records of those not heard of for too long. When the
time since a record was written can be told, the wrapping difference in the program is
that time (`Peer.isExpired_iff`), and a sweep is no more than a filter: the swarms it
leaves are the old ones with their tables filtered (`Store.swept`). A second sweep at the
same time finds nothing, since a filter leaves alone what it has let through.
-/

namespace PeerTracker

namespace Peer

/-- Heard of within the last `timeout` seconds, as numbers, which do not wrap. -/
def Recent (now timeout : Int64) (p : Peer) : Prop :=
  now.toInt - p.lastSeen.toInt ≤ timeout.toInt

/-- The time since the record was written is one that an `Int64` can tell. -/
def Dated (now : Int64) (p : Peer) : Prop :=
  -2 ^ 63 ≤ now.toInt - p.lastSeen.toInt ∧ now.toInt - p.lastSeen.toInt < 2 ^ 63

instance (now timeout : Int64) : DecidablePred (Recent now timeout) :=
  fun p => inferInstanceAs (Decidable (now.toInt - p.lastSeen.toInt ≤ timeout.toInt))

instance (now : Int64) : DecidablePred (Dated now) :=
  fun _ => inferInstanceAs (Decidable (_ ∧ _))

theorem isExpired_iff {now : Int64} {p : Peer} (h : p.Dated now) (timeout : Int64) :
    p.isExpired now timeout = true ↔ ¬p.Recent now timeout := by
  have hsub : (now - p.lastSeen).toInt = now.toInt - p.lastSeen.toInt := by
    rw [Int64.toInt_sub]
    exact Int.bmod_eq_of_le (by have := h.1; omega) (by have := h.2; omega)
  rw [isExpired, decide_eq_true_eq, Int64.lt_iff_toInt_lt, hsub, Recent, not_le]

theorem isExpired_eq {now : Int64} {p : Peer} (h : p.Dated now) (timeout : Int64) :
    p.isExpired now timeout = !decide (p.Recent now timeout) := by
  have hiff := isExpired_iff h timeout
  by_cases hrecent : p.Recent now timeout
  · simpa [hrecent] using hiff
  · simpa [hrecent] using hiff

end Peer

/-- The baseline provider records of all swarms. -/
def State.providerRecords (s : State) : List Peer :=
  s.swarms.values.flatMap fun w => w.providers.values

/-- Of every record in the store it can be told how old it is. -/
def State.Dated (now : Int64) (s : State) : Prop :=
  ∀ p ∈ s.records ++ s.providerRecords, p.Dated now

theorem State.mem_records {s : State} {hash : InfoHash} {w : Swarm} (h : s.swarm? hash = some w)
    {p : Peer} (hp : p ∈ w.peers.values) : p ∈ s.records :=
  List.mem_flatMap.mpr ⟨w, Table.mem_values_of_get? h, hp⟩

theorem State.mem_providerRecords {s : State} {hash : InfoHash} {w : Swarm}
    (h : s.swarm? hash = some w) {p : Peer} (hp : p ∈ w.providers.values) :
    p ∈ s.providerRecords :=
  List.mem_flatMap.mpr ⟨w, Table.mem_values_of_get? h, hp⟩

/-! ## One swarm -/

namespace Swarm

variable (now timeout : Int64) (w : Swarm)

theorem expire_gone :
    (Store.expire now timeout w).2.1.length = w.peers.values.countP (·.isExpired now timeout) := by
  have hcard := congrArg Multiset.card (expire_bag w now timeout)
  rw [Multiset.card_add, Multiset.coe_card, Table.card_bag, Table.card_bag, expire_peers] at hcard
  have hkept : (w.peers.filter fun _ p => !p.isExpired now timeout).size =
      w.peers.values.countP fun p => !p.isExpired now timeout := by
    rw [← Table.length_values, Table.values_filter, List.countP_eq_length_filter]
  have hall := List.length_eq_countP_add_countP (l := w.peers.values) (·.isExpired now timeout)
  simp only [Bool.not_eq_true, Bool.decide_eq_false, Table.length_values] at hall
  omega

theorem expire_goneProviders :
    (Store.expire now timeout w).2.2 = w.providers.values.filter (·.isExpired now timeout) := by
  rw [← removeAll_providers w (w.peers.filter fun _ p => p.isExpired now timeout).keys]
  rfl

/-- Where nothing has expired, expiry changes nothing. -/
theorem expire_eq_self {now timeout : Int64} {w : Swarm}
    (hpeers : ∀ p ∈ w.peers.values, p.isExpired now timeout = false)
    (hproviders : ∀ p ∈ w.providers.values, p.isExpired now timeout = false) :
    Store.expire now timeout w = (w, [], []) := by
  have hnone : (w.peers.filter fun _ p => p.isExpired now timeout).keys = [] := by
    rw [Table.keys, Table.filter, List.map_eq_nil_iff, List.filter_eq_nil_iff]
    intro e he
    simp [hpeers e.2 (Table.mem_values_of_mem he)]
  have hall : (w.providers.filter fun _ p => !p.isExpired now timeout) = w.providers := by
    apply Table.filter_eq_self
    intro e he
    simp [hproviders e.2 (Table.mem_values_of_mem he)]
  have hnoProvider : w.providers.values.filter (·.isExpired now timeout) = [] := by
    rw [List.filter_eq_nil_iff]
    intro p hp
    simp [hproviders p hp]
  simp only [Store.expire, hnone, removeAll, hall, hnoProvider]

end Swarm

/-! ## All swarms -/

namespace Store

section Report

variable (now timeout : Int64)

/-- What a sweep reports of one swarm. -/
def taken (w : Swarm) : Trimmed where
  peers := w.peers.values.countP (·.isExpired now timeout)
  providers := w.providers.values.countP (·.isExpired now timeout)
  hashes := if (trimmed now timeout w).isSome then 0 else 1

theorem trimHash_fst (fast : Bool) (acc : Trimmed × State) (e : InfoHash × Swarm) :
    (trimHash fast now timeout acc e).1 = acc.1 + taken now timeout e.2 := by
  have hpeers := Swarm.expire_gone now timeout e.2
  have hproviders := Swarm.expire_goneProviders now timeout e.2
  by_cases h : (expire now timeout e.2).1.peers.isEmpty && !(expire now timeout e.2).1.retired
  · simp only [trimHash, trimSwarm, taken, trimmed, if_pos h, hpeers, hproviders,
      List.countP_eq_length_filter]
    rfl
  · simp only [trimHash, trimSwarm, taken, trimmed, if_neg h, hpeers, hproviders,
      List.countP_eq_length_filter]
    rfl

/-- A number that adds up in reports is, after a sweep, the sum over the swarms. -/
theorem trim_fst {f : Trimmed → Nat} (hzero : f {} = 0) (hadd : ∀ a b, f (a + b) = f a + f b)
    (rules : StoreRules) (s : State) :
    f (trim rules s now timeout).1 = (s.swarms.values.map fun w => f (taken now timeout w)).sum := by
  have hfold : ∀ (es : List (InfoHash × Swarm)) (acc : Trimmed × State),
      f (es.foldl (trimHash rules.fast now timeout) acc).1 =
        f acc.1 + (es.map fun e => f (taken now timeout e.2)).sum := by
    intro es
    induction es with
    | nil => exact fun acc => (Nat.add_zero _).symm
    | cons e es ih =>
        intro acc
        rw [List.foldl_cons, ih, trimHash_fst, hadd, List.map_cons, List.sum_cons, Nat.add_assoc]
  rw [trim, hfold, hzero, Nat.zero_add, Table.values, List.map_map]
  rfl

theorem trim_peers (rules : StoreRules) (s : State) :
    (trim rules s now timeout).1.peers = s.records.countP (·.isExpired now timeout) := by
  rw [State.records, List.countP_flatMap]
  exact trim_fst now timeout rfl (fun _ _ => rfl) rules s

theorem trim_providers (rules : StoreRules) (s : State) :
    (trim rules s now timeout).1.providers =
      s.providerRecords.countP (·.isExpired now timeout) := by
  rw [State.providerRecords, List.countP_flatMap]
  exact trim_fst now timeout rfl (fun _ _ => rfl) rules s

/-- The swarms that a sweep leaves of those in a table. -/
def swept (t : Table InfoHash Swarm) : Table InfoHash Swarm :=
  (t.filter fun _ w => (trimmed now timeout w).isSome).mapValues fun w => (expire now timeout w).1

theorem get?_swept (t : Table InfoHash Swarm) (hash : InfoHash) :
    (swept now timeout t).get? hash = (t.get? hash).bind (trimmed now timeout) := by
  rw [swept, Table.get?_mapValues, Table.get?_filter]
  cases t.get? hash with
  | none => rfl
  | some w =>
      cases h : trimmed now timeout w with
      | none => simp [h]
      | some v => simp [h, (trimmed_eq_some h).1]

theorem trim_perm (rules : StoreRules) (s : State) :
    (trim rules s now timeout).2.swarms.entries.Perm (swept now timeout s.swarms).entries := by
  apply Table.perm_of_get?
  intro hash
  rw [get?_swept]
  exact swarm?_trim rules now timeout s hash

/-- Every swarm is either left or reported as gone. -/
theorem trim_hashes (rules : StoreRules) (s : State) :
    (trim rules s now timeout).1.hashes + (trim rules s now timeout).2.hashes = s.hashes := by
  have hleft : (trim rules s now timeout).2.hashes =
      s.swarms.values.countP fun w => (trimmed now timeout w).isSome := by
    rw [State.hashes, Table.size, (trim_perm now timeout rules s).length_eq, Table.values,
      List.countP_map, List.countP_eq_length_filter]
    exact List.length_map _
  rw [hleft, trim_fst (f := Trimmed.hashes) now timeout rfl (fun _ _ => rfl), State.hashes,
    Table.size, Table.values]
  induction s.swarms.entries with
  | nil => rfl
  | cons e es ih =>
      rw [List.map_cons, List.map_cons, List.sum_cons, List.countP_cons, List.length_cons, ← ih]
      simp only [taken]
      split <;> omega

/-- The records that a sweep leaves are those that have not expired. -/
theorem trim_records (rules : StoreRules) (s : State) :
    (trim rules s now timeout).2.records.Perm
      (s.records.filter fun p => !p.isExpired now timeout) := by
  have hpeers : ∀ w : Swarm, (expire now timeout w).1.peers.values =
      w.peers.values.filter fun p => !p.isExpired now timeout := by
    intro w
    rw [Swarm.expire_peers, Table.values_filter]
  have hgone : ∀ w : Swarm, (trimmed now timeout w).isSome = false →
      (expire now timeout w).1.peers.values = [] := by
    intro w hw
    rw [Option.isSome_eq_false_iff, Option.isNone_iff_eq_none] at hw
    exact List.map_eq_nil_iff.mpr (List.isEmpty_iff.mp (trimmed_eq_none hw))
  have hswept : (swept now timeout s.swarms).values.flatMap (fun w => w.peers.values) =
      s.records.filter fun p => !p.isExpired now timeout := by
    rw [swept, Table.values_mapValues, List.flatMap_map, Table.flatMap_values_filter _ hgone,
      State.records, List.filter_flatMap]
    simp only [hpeers]
  rw [← hswept]
  exact ((trim_perm now timeout rules s).map Prod.snd).flatMap_right _

end Report

/-- A sweep that finds no empty swarm and nothing expired does nothing. -/
theorem trim_eq_self {s : State} {now timeout : Int64}
    (hpeers : ∀ p ∈ s.records, p.isExpired now timeout = false)
    (hproviders : ∀ p ∈ s.providerRecords, p.isExpired now timeout = false)
    (hfull : ∀ hash w, s.swarm? hash = some w → ¬w.peers.isEmpty = true) (rules : StoreRules) :
    trim rules s now timeout = ({}, s) := by
  have hturn : ∀ e ∈ s.swarms.entries, trimHash rules.fast now timeout ({}, s) e = ({}, s) := by
    intro e he
    have hget : s.swarm? e.1 = some e.2 := (Table.get?_eq_some_iff _ _ _).mpr he
    have hexpire : expire now timeout e.2 = (e.2, [], []) := Swarm.expire_eq_self
      (fun p hp => hpeers p (State.mem_records hget hp))
      (fun p hp => hproviders p (State.mem_providerRecords hget hp))
    have hsame : s.setSwarm e.1 e.2 = s := by
      rw [State.setSwarm, Table.insert_eq_self hget]
    have hkeep : ¬(e.2.peers.isEmpty && !e.2.retired) = true := by
      simp [hfull e.1 e.2 hget]
    simp only [trimHash, trimSwarm, hexpire, if_neg hkeep]
    exact congrArg (({} : Trimmed), ·) hsame
  rw [trim]
  generalize s.swarms.entries = es at hturn
  induction es with
  | nil => rfl
  | cons e es ih =>
      rw [List.foldl_cons, hturn e List.mem_cons_self]
      exact ih fun x hx => hturn x (List.mem_cons_of_mem _ hx)

end Store

/-! ## The sweep -/

theorem State.Dated.isExpired_eq {s : State} {now : Int64} (hdated : s.Dated now)
    (timeout : Int64) {p : Peer} (hp : p ∈ s.records ++ s.providerRecords) :
    p.isExpired now timeout = !decide (p.Recent now timeout) :=
  Peer.isExpired_eq (hdated p hp) timeout

section Sweep

variable {s : State} {now timeout : Int64} (hs : s.Sound) (rules : StoreRules)
include hs

/-- A sweep leaves the swarms in which someone is still alive. -/
theorem isSome_trimmed_iff {hash : InfoHash} {w : Swarm} (hw : s.swarm? hash = some w) :
    (Store.trimmed now timeout w).isSome ↔
      ∃ p ∈ w.peers.values, p.isExpired now timeout = false := by
  have hlive : (Store.expire now timeout w).1.retired = false :=
    (Swarm.expire_retired w now timeout).trans (hs hash w hw).live
  have hvalues : (Store.expire now timeout w).1.peers.values =
      w.peers.values.filter fun p => !p.isExpired now timeout := by
    rw [Swarm.expire_peers, Table.values_filter]
  have hempty : (Store.expire now timeout w).1.peers.isEmpty = true ↔
      w.peers.values.filter (fun p => !p.isExpired now timeout) = [] := by
    rw [← hvalues, Table.isEmpty, Table.values, List.isEmpty_iff, List.map_eq_nil_iff]
  rw [Store.trimmed, hlive, Bool.not_false, Bool.and_true]
  split
  · next h => simpa using List.filter_eq_nil_iff.mp (hempty.mp h)
  · next h =>
    simp only [hempty, List.filter_eq_nil_iff] at h
    simpa using h

theorem trim_twice :
    Store.trim rules (Store.trim rules s now timeout).2 now timeout =
      ({}, (Store.trim rules s now timeout).2) := by
  -- each swarm that is left is what `expire` makes of an old one
  have hleft : ∀ hash v, (Store.trim rules s now timeout).2.swarm? hash = some v →
      ∃ w, s.swarm? hash = some w ∧ Store.trimmed now timeout w = some v := by
    intro hash v hv
    rwa [Store.swarm?_trim, Option.bind_eq_some_iff] at hv
  apply Store.trim_eq_self
  · intro p hp
    have hmem := (Store.trim_records now timeout rules s).mem_iff.mp hp
    simpa using (List.mem_filter.mp hmem).2
  · intro p hp
    obtain ⟨v, hvalue, hpv⟩ := List.mem_flatMap.mp hp
    obtain ⟨hash, hv⟩ := (Table.mem_bag _ v).mp hvalue
    obtain ⟨w, -, htrim⟩ := hleft hash v hv
    obtain ⟨rfl, -⟩ := Store.trimmed_eq_some htrim
    rw [Swarm.expire_providers, Table.values_filter] at hpv
    simpa using (List.mem_filter.mp hpv).2
  · intro hash v hv
    obtain ⟨w, hw, htrim⟩ := hleft hash v hv
    exact (Store.trimmed_eq_some htrim).2 (hs hash w hw).live

end Sweep

/-- **A sweep removes what is stale and nothing else.** Let a store have come about in any
way, and let the time since each of its records be one that an `Int64` can tell. A sweep
leaves a swarm if and only if one of its peer records is at most `timeout` old. Such a
swarm keeps those peer records, and those of its provider records, just as they are and
in their order, with counters that are a count of them. What is reported are the peer
records and the provider records that are older, over all swarms, and the swarms that
are gone, whether they had peers or not. A second sweep reports nothing and leaves the
state as it is. -/
theorem sweep_leaves_recent_records (rules : StoreRules) {s : State}
    (hs : s.Arises rules State.Any) {now : Int64} (timeout : Int64) (hdated : s.Dated now) :
    let t := (Store.trim rules s now timeout).1
    let s' := (Store.trim rules s now timeout).2
    (∀ hash, (s'.swarm? hash).isSome ↔
      ∃ w, s.swarm? hash = some w ∧ ∃ p ∈ w.peers.values, p.Recent now timeout) ∧
    (∀ hash v, s'.swarm? hash = some v →
      ∃ w, s.swarm? hash = some w ∧
        v.peers = w.peers.filter (fun _ p => p.Recent now timeout) ∧
        v.providers = w.providers.filter (fun _ p => p.Recent now timeout) ∧
        v.Counted ∧ v.retired = false) ∧
    t.peers = s.records.countP (fun p => ¬p.Recent now timeout) ∧
    t.peers + s'.peers = s.peers ∧
    t.providers = s.providerRecords.countP (fun p => ¬p.Recent now timeout) ∧
    t.hashes + s'.hashes = s.hashes ∧
    Store.trim rules s' now timeout = ({}, s') := by
  intro t s'
  have hsound := hs.sound
  have hpeer : ∀ hash w, s.swarm? hash = some w → ∀ p ∈ w.peers.values,
      p.isExpired now timeout = !decide (p.Recent now timeout) := by
    intro hash w hw p hp
    exact hdated.isExpired_eq timeout (List.mem_append_left _ (State.mem_records hw hp))
  have hprovider : ∀ hash w, s.swarm? hash = some w → ∀ p ∈ w.providers.values,
      p.isExpired now timeout = !decide (p.Recent now timeout) := by
    intro hash w hw p hp
    exact hdated.isExpired_eq timeout
      (List.mem_append_right _ (State.mem_providerRecords hw hp))
  refine ⟨?_, ?_, ?_, ?_, ?_, ?_, ?_⟩
  · intro hash
    rw [Store.swarm?_trim]
    cases hw : s.swarm? hash with
    | none => simp
    | some w =>
        rw [Option.bind_some, isSome_trimmed_iff hsound hw]
        constructor
        · rintro ⟨p, hp, hkept⟩
          rw [hpeer hash w hw p hp] at hkept
          exact ⟨w, rfl, p, hp, by simpa using hkept⟩
        · rintro ⟨_, hsame, p, hp, hrecent⟩
          cases hsame
          exact ⟨p, hp, by simp [hpeer hash w hw p hp, hrecent]⟩
  · intro hash v hv
    have hv' := hv
    rw [Store.swarm?_trim, Option.bind_eq_some_iff] at hv'
    obtain ⟨w, hw, htrim⟩ := hv'
    obtain ⟨rfl, -⟩ := Store.trimmed_eq_some htrim
    have hv := (Store.sound_trim rules hsound now timeout) hash _ hv
    refine ⟨w, hw, ?_, ?_, hv.counted, hv.live⟩
    · rw [Swarm.expire_peers]
      apply Table.filter_congr
      intro e he
      simp [hpeer hash w hw e.2 (Table.mem_values_of_mem he)]
    · rw [Swarm.expire_providers]
      apply Table.filter_congr
      intro e he
      simp [hprovider hash w hw e.2 (Table.mem_values_of_mem he)]
  · show (Store.trim rules s now timeout).1.peers = _
    rw [Store.trim_peers]
    apply List.countP_congr
    intro p hp
    simp [hdated.isExpired_eq timeout (List.mem_append_left _ hp)]
  · show (Store.trim rules s now timeout).1.peers + s'.peers = s.peers
    rw [Store.trim_peers, State.peers_eq, State.peers_eq,
      (Store.trim_records now timeout rules s).length_eq, ← List.countP_eq_length_filter,
      List.length_eq_countP_add_countP (·.isExpired now timeout)]
    simp
  · show (Store.trim rules s now timeout).1.providers = _
    rw [Store.trim_providers]
    apply List.countP_congr
    intro p hp
    simp [hdated.isExpired_eq timeout (List.mem_append_right _ hp)]
  · exact Store.trim_hashes now timeout rules s
  · exact trim_twice hsound rules

/-- A third identifier. -/
def thirdId : Identifier := ⟨List.replicate 20 2, rfl⟩

/-- In one swarm there is an old peer and a recent one; in another no recent one; from the
third the peer has gone and left a provider record. -/
def sampleAges : List Operation :=
  [.command (.save .zero .zero (sampleReport true 1)),
    .command (.save .zero otherId (sampleReport false 5)),
    .command (.save otherId .zero (sampleReport true 2)),
    .command (.save thirdId .zero (sampleReport true 6)),
    .command (.drop thirdId .zero false)]

theorem sweep_leaves_recent_records_sample_ages :
    let rules : StoreRules := ⟨2, false⟩
    let s := sampleAges.foldl (Operation.exec rules) (.fresh 50 (.ofList []))
    let t := Store.trim rules s 7 3
    s.Dated 7 ∧ t.1 = ⟨2, 2, 2⟩ ∧ t.2.peers = 1 ∧ (t.2.swarm? .zero).isSome = true ∧
      Store.trim rules t.2 7 3 = ({}, t.2) := by
  intro rules s t
  have hdated : s.Dated 7 := by
    unfold State.Dated
    decide +kernel
  have harises : s.Arises rules State.Any :=
    State.Arises.operate sampleAges (.fresh 50 (.ofList []))
  obtain ⟨hleft, -, -, hpeers, -, -, htwice⟩ := sweep_leaves_recent_records rules harises 3 hdated
  have hreport : t.1 = ⟨2, 2, 2⟩ := by decide +kernel
  have hrecent : ∃ w, s.swarm? .zero = some w ∧ ∃ p ∈ w.peers.values, p.Recent 7 3 := by
    have hpeer : ∃ p ∈ ((s.swarm? .zero).getD ∅).peers.values, p.Recent 7 3 := by decide +kernel
    have hsome : (s.swarm? .zero).isSome = true := by decide +kernel
    obtain ⟨w, hw⟩ := Option.isSome_iff_exists.mp hsome
    rw [hw] at hpeer
    exact ⟨w, hw, hpeer⟩
  have hthree : s.peers = 3 := by decide +kernel
  -- from here on it is nothing to the proof how the store came about
  clear_value s
  refine ⟨hdated, hreport, ?_, (hleft .zero).mpr hrecent, htwice⟩
  have hsum : t.1.peers + t.2.peers = 3 := hpeers.trans hthree
  rw [hreport] at hsum
  exact Nat.add_left_cancel (n := 2) hsum

end PeerTracker
