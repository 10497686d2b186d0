import Mathlib.Algebra.Order.Group.Multiset
import PeerTracker.Proofs.Tables
import PeerTracker.Store.Persistence

/-!
# The counters of a swarm

The two counters of a swarm are never computed from its peers: each change of the
peers adjusts them. `Counted` says that they are a count all the same, modulo the
width of a counter, and every change of a swarm keeps that. The changes are those
of `Swarm`, the report that `Store.savePeer` writes, and the loading of a record.

Providers stand in a table of their own that no counter looks at.
-/

namespace PeerTracker

namespace Swarm

/-- The counter of the complete or of the incomplete peers. -/
def counter (w : Swarm) (complete : Bool) : UInt32 :=
  if complete then w.complete else w.incomplete

theorem counter_countNew (w : Swarm) (c d : Bool) :
    (w.countNew c).counter d = if d = c then w.counter d + 1 else w.counter d := by
  cases c <;> cases d <;> rfl

theorem counter_countGone (w : Swarm) (c d : Bool) :
    (w.countGone c).counter d = if d = c then w.counter d - 1 else w.counter d := by
  cases c <;> cases d <;> rfl

theorem counter_transition (w : Swarm) (was now d : Bool) :
    (w.transition was now).counter d =
      if was = now then w.counter d
      else if d = now then w.counter d + 1 else w.counter d - 1 := by
  cases was <;> cases now <;> cases d <;> rfl

/-- `v` holds the records of `w`; only the counters may differ. -/
structure SameRecords (w v : Swarm) : Prop where
  peers : v.peers = w.peers
  providers : v.providers = w.providers
  retired : v.retired = w.retired

theorem sameRecords_countNew (w : Swarm) (c : Bool) : SameRecords w (w.countNew c) := by
  cases c <;> exact ⟨rfl, rfl, rfl⟩

theorem sameRecords_countGone (w : Swarm) (c : Bool) : SameRecords w (w.countGone c) := by
  cases c <;> exact ⟨rfl, rfl, rfl⟩

theorem sameRecords_transition (w : Swarm) (was now : Bool) :
    SameRecords w (w.transition was now) := by
  cases was <;> cases now <;> exact ⟨rfl, rfl, rfl⟩

theorem sameRecords_recount (w : Swarm) (id : PeerId) (c : Bool) :
    SameRecords w (Store.recount w id c) := by
  unfold Store.recount
  split
  · exact sameRecords_transition w _ c
  · exact sameRecords_countNew w c

/-- The record that a report leaves of a peer whose record was `p`. -/
def reported (w : Swarm) (id : PeerId) (p : Peer) (u : Update) : Peer :=
  { p.apply u with leechersLastTime := (Store.recount w id u.complete).incomplete }

theorem savePeer_peers (w : Swarm) (id : PeerId) (p : Peer) (u : Update) :
    (Store.savePeer w id p u).peers = w.peers.insert id (w.reported id p u) := rfl

/-! ## Removing peers -/

theorem remove_fst (w : Swarm) (id : PeerId) : (w.remove id).1 = w.peers.get? id := by
  unfold remove
  split <;> simp_all

theorem remove_peers (w : Swarm) (id : PeerId) :
    (w.remove id).2.peers = w.peers.erase id := by
  unfold remove
  split
  · next h => exact (Table.erase_eq_self h).symm
  · rfl

theorem remove_retired (w : Swarm) (id : PeerId) : (w.remove id).2.retired = w.retired := by
  unfold remove
  split
  · rfl
  · exact (sameRecords_countGone w _).retired

theorem remove_providers (w : Swarm) (i : PeerId) : (w.remove i).2.providers = w.providers := by
  unfold remove
  split
  · rfl
  · exact (sameRecords_countGone w _).providers

/-- What a removal takes out and what it leaves is what there was. -/
theorem remove_bag (w : Swarm) (id : PeerId) :
    (↑(w.remove id).1.toList : Multiset Peer) + (w.remove id).2.peers.bag = w.peers.bag := by
  rw [remove_fst, remove_peers]
  cases h : w.peers.get? id with
  | none => rw [Table.erase_eq_self h]; simp
  | some p => rw [Table.bag_eq_cons h]; simp

theorem removeAll_bag (w : Swarm) (ids : List PeerId) :
    (↑(w.removeAll ids).1 : Multiset Peer) + (w.removeAll ids).2.peers.bag = w.peers.bag := by
  induction ids generalizing w with
  | nil => simp [removeAll]
  | cons id ids ih =>
      show (↑((w.remove id).1.toList ++ ((w.remove id).2.removeAll ids).1) : Multiset Peer) +
        ((w.remove id).2.removeAll ids).2.peers.bag = w.peers.bag
      rw [← Multiset.coe_add, add_assoc, ih, remove_bag]

/-- What removing one peer keeps, removing many keeps. -/
theorem removeAll_induction {P : Swarm → Prop} (hstep : ∀ w id, P w → P (w.remove id).2)
    (w : Swarm) (ids : List PeerId) (h : P w) : P (w.removeAll ids).2 := by
  induction ids generalizing w with
  | nil => exact h
  | cons id ids ih => exact ih _ (hstep w id h)

theorem removeAll_retired (w : Swarm) (ids : List PeerId) :
    (w.removeAll ids).2.retired = w.retired :=
  removeAll_induction (P := fun v => v.retired = w.retired)
    (fun v id h => (remove_retired v id).trans h) w ids rfl

theorem removeAll_providers (w : Swarm) (ids : List PeerId) :
    (w.removeAll ids).2.providers = w.providers :=
  removeAll_induction (P := fun v => v.providers = w.providers)
    (fun v i hv => (remove_providers v i).trans hv) w ids rfl

theorem removeAll_peers (w : Swarm) (ids : List PeerId) :
    (w.removeAll ids).2.peers = w.peers.filter fun i _ => i ∉ ids := by
  induction ids generalizing w with
  | nil => exact (Table.filter_eq_self fun _ _ => by simp).symm
  | cons id ids ih =>
      show ((w.remove id).2.removeAll ids).2.peers = _
      rw [ih, remove_peers, Table.erase, Table.filter_filter]
      apply Table.filter_congr
      intro e _
      simp

/-- Removing everyone takes out every record. -/
theorem removeAll_keys (w : Swarm) :
    (↑(w.removeAll w.peers.keys).1 : Multiset Peer) = w.peers.bag := by
  have hempty : (w.removeAll w.peers.keys).2.peers.bag = 0 := by
    apply Table.bag_eq_zero
    intro i
    rw [removeAll_peers, Table.get?_filter, Option.filter_eq_none_iff]
    intro p hp
    simp [(Table.mem_keys _ _).mpr ⟨p, hp⟩]
  have h := removeAll_bag w w.peers.keys
  rw [hempty, add_zero] at h
  exact h

theorem expire_bag (w : Swarm) (now timeout : Int64) :
    (↑(Store.expire now timeout w).2.1 : Multiset Peer) +
      (Store.expire now timeout w).1.peers.bag = w.peers.bag :=
  removeAll_bag w _

theorem expire_retired (w : Swarm) (now timeout : Int64) :
    (Store.expire now timeout w).1.retired = w.retired :=
  removeAll_retired w _

theorem expire_providers (w : Swarm) (now timeout : Int64) :
    (Store.expire now timeout w).1.providers =
      w.providers.filter fun _ p => !p.isExpired now timeout := by
  rw [← removeAll_providers w (w.peers.filter fun _ p => p.isExpired now timeout).keys]
  rfl

/-- A peer outlives a sweep when it has not expired. -/
theorem expire_peers (w : Swarm) (now timeout : Int64) :
    (Store.expire now timeout w).1.peers = w.peers.filter fun _ p => !p.isExpired now timeout := by
  show (w.removeAll _).2.peers = _
  rw [removeAll_peers]
  apply Table.filter_congr
  intro e he
  -- an id that has expired stands for one record only, that of `e`
  have hkey : e.1 ∈ (w.peers.filter fun _ p => p.isExpired now timeout).keys ↔
      e.2.isExpired now timeout = true := by
    rw [Table.mem_keys]
    simp only [Table.get?_filter, (Table.get?_eq_some_iff w.peers e.1 e.2).mpr he,
      Option.filter_eq_some_iff, Option.some.injEq, exists_eq_left']
  by_cases h : e.2.isExpired now timeout = true
  · simp [hkey.mpr h, h]
  · simp [mt hkey.mp h, h]

theorem get?_expire (w : Swarm) (now timeout : Int64) (i : PeerId) :
    (Store.expire now timeout w).1.peers.get? i =
      (w.peers.get? i).filter fun p => !p.isExpired now timeout := by
  rw [expire_peers, Table.get?_filter]

/-! ## Loading records -/

/-- The swarm with one more peer record of a snapshot, unless it has one of that id. -/
def accept (w : Swarm) (r : Snapshot.PeerRecord) : Swarm :=
  if w.peers.contains r.id then w
  else { w.countNew r.complete with peers := w.peers.insert r.id r.toPeer }

def acceptProvider (w : Swarm) (r : Snapshot.PeerRecord) : Swarm :=
  { w with providers := w.providers.insert r.id r.toPeer }

/-- The swarm that an entry of a snapshot describes. -/
def ofRecord (r : Snapshot.SwarmRecord) : Swarm :=
  r.providers.foldl acceptProvider (r.peers.foldl accept ∅)

theorem accept_retired (w : Swarm) (r : Snapshot.PeerRecord) :
    (w.accept r).retired = w.retired := by
  unfold accept
  split
  · rfl
  · exact (sameRecords_countNew w _).retired

theorem accept_providers (w : Swarm) (r : Snapshot.PeerRecord) :
    (w.accept r).providers = w.providers := by
  unfold accept
  split
  · rfl
  · exact (sameRecords_countNew w _).providers

theorem foldl_acceptProvider_eq (w : Swarm) (rs : List Snapshot.PeerRecord) :
    ∃ t, rs.foldl acceptProvider w = { w with providers := t } := by
  induction rs generalizing w with
  | nil => exact ⟨w.providers, rfl⟩
  | cons r rs ih => exact ih (w.acceptProvider r)

/-- What accepting one peer keeps, accepting many keeps. -/
theorem foldl_accept_induction {P : Swarm → Prop} (hstep : ∀ w r, P w → P (w.accept r))
    (w : Swarm) (rs : List Snapshot.PeerRecord) (h : P w) : P (rs.foldl accept w) := by
  induction rs generalizing w with
  | nil => exact h
  | cons r rs ih => exact ih _ (hstep w r h)

theorem foldl_accept_providers (rs : List Snapshot.PeerRecord) :
    (rs.foldl accept ∅).providers = ∅ :=
  foldl_accept_induction (P := fun w => w.providers = ∅)
    (fun w p hw => (accept_providers w p).trans hw) ∅ rs rfl

theorem ofRecord_eq (r : Snapshot.SwarmRecord) :
    ∃ t, ofRecord r = { r.peers.foldl accept ∅ with providers := t } :=
  foldl_acceptProvider_eq _ r.providers

theorem ofRecord_peers (r : Snapshot.SwarmRecord) :
    (ofRecord r).peers = (r.peers.foldl accept ∅).peers := by
  obtain ⟨t, ht⟩ := ofRecord_eq r
  rw [ht]

theorem get?_accept (w : Swarm) (r : Snapshot.PeerRecord) (i : PeerId) :
    (w.accept r).peers.get? i =
      (w.peers.get? i).or (if r.id = i then some r.toPeer else none) := by
  unfold accept
  cases h : w.peers.get? r.id with
  | some p =>
      rw [if_pos (by simp [Table.contains, h])]
      by_cases hi : r.id = i
      · rw [← hi, h, Option.some_or]
      · rw [if_neg hi, Option.or_none]
  | none =>
      rw [if_neg (by simp [Table.contains, h])]
      show (w.peers.insert r.id r.toPeer).get? i = _
      rw [Table.get?_insert]
      by_cases hi : r.id = i
      · rw [if_pos hi.symm, if_pos hi, ← hi, h, Option.none_or]
      · rw [if_neg (fun e => hi e.symm), if_neg hi, Option.or_none]

/-- Of peer records with one id the first is taken. -/
theorem get?_foldl_accept (w : Swarm) (rs : List Snapshot.PeerRecord) (i : PeerId) :
    (rs.foldl accept w).peers.get? i =
      (w.peers.get? i).or ((rs.find? fun r => r.id = i).map (·.toPeer)) := by
  induction rs generalizing w with
  | nil => exact (Option.or_none).symm
  | cons r rs ih =>
      rw [List.foldl_cons, ih, get?_accept, Option.or_assoc]
      by_cases hi : r.id = i
      · rw [if_pos hi, List.find?_cons_of_pos (by simpa using hi), Option.some_or, Option.map_some]
      · rw [if_neg hi, List.find?_cons_of_neg (by simpa using hi), Option.none_or]

/-- Of provider records with one id the last is taken. -/
theorem get?_foldl_acceptProvider (w : Swarm) (rs : List Snapshot.PeerRecord) (i : PeerId) :
    (rs.foldl acceptProvider w).providers.get? i =
      ((rs.reverse.find? fun r => r.id = i).map (·.toPeer)).or (w.providers.get? i) := by
  induction rs using List.reverseRecOn with
  | nil => rfl
  | append_singleton rs r ih =>
      rw [List.foldl_append, List.reverse_append]
      show (((rs.foldl acceptProvider w).providers).insert r.id r.toPeer).get? i = _
      rw [Table.get?_insert, ih]
      by_cases hi : r.id = i
      · simp [hi]
      · have hi' : ¬i = r.id := fun e => hi e.symm
        simp [hi, hi']

theorem get?_ofRecord_peers (r : Snapshot.SwarmRecord) (i : PeerId) :
    (ofRecord r).peers.get? i = (r.peers.find? fun p => p.id = i).map (·.toPeer) := by
  rw [ofRecord_peers, get?_foldl_accept]
  rfl

theorem get?_ofRecord_providers (r : Snapshot.SwarmRecord) (i : PeerId) :
    (ofRecord r).providers.get? i =
      (r.providers.reverse.find? fun p => p.id = i).map (·.toPeer) := by
  rw [ofRecord, get?_foldl_acceptProvider, foldl_accept_providers]
  exact Option.or_none

theorem ofRecord_retired (r : Snapshot.SwarmRecord) : (ofRecord r).retired = false := by
  obtain ⟨t, ht⟩ := ofRecord_eq r
  rw [ht]
  exact foldl_accept_induction (P := fun w => w.retired = false)
    (fun w p h => (accept_retired w p).trans h) ∅ r.peers rfl

/-! ## The counters are a count -/

/-- A peer more or less moves the count of its kind by one. -/
theorem countP_complete_cons (p : Peer) (ps : Multiset Peer) (c : Bool) :
    ((p ::ₘ ps).countP fun q => q.complete = c) =
      if c = p.complete then (ps.countP fun q => q.complete = c) + 1
      else ps.countP fun q => q.complete = c := by
  rw [Multiset.countP_cons]
  by_cases h : c = p.complete
  · rw [if_pos h, if_pos h.symm]
  · rw [if_neg h, if_neg (fun e => h e.symm), Nat.add_zero]

/-- There are two kinds: what a peer is not after it changed sides, it was before. -/
theorem eq_was_of_ne_now {was now c : Bool} (hmoved : ¬was = now) (hc : ¬c = now) : c = was := by
  revert hmoved hc
  cases was <;> cases now <;> cases c <;> decide

/-- How many peers are complete, or incomplete. -/
def tally (w : Swarm) (complete : Bool) : Nat :=
  w.peers.bag.countP fun p => p.complete = complete

/-- Each counter is the number of peers of its kind, modulo the width of a counter. -/
def Counted (w : Swarm) : Prop := ∀ c, w.counter c = UInt32.ofNat (w.tally c)

theorem tally_le_size (w : Swarm) (c : Bool) : w.tally c ≤ w.peers.size := by
  rw [← Table.card_bag]
  exact Multiset.countP_le_card _ _

theorem tally_add_tally (w : Swarm) : w.tally true + w.tally false = w.peers.size := by
  rw [← Table.card_bag, Multiset.card_eq_countP_add_countP fun p : Peer => p.complete = true]
  simp only [tally, Bool.not_eq_true]

/-- Two swarms with the same peers and the same counters are counted alike. -/
theorem Counted.congr {w v : Swarm} (hw : w.Counted) (hp : v.peers = w.peers)
    (hc : ∀ c, v.counter c = w.counter c) : v.Counted := by
  intro c
  rw [hc, hw c, tally, tally, hp]

/-- The counters do not look at the providers. -/
theorem Counted.withProviders {w : Swarm} (hw : w.Counted) (t : Table PeerId Peer) :
    Counted { w with providers := t } :=
  hw.congr rfl fun _ => rfl

theorem counted_empty : (∅ : Swarm).Counted := by
  intro c
  cases c <;> rfl

theorem ofNat_countP_cons (p : Peer) (ps : Multiset Peer) (c : Bool) :
    UInt32.ofNat ((p ::ₘ ps).countP fun q => q.complete = c) =
      if c = p.complete then UInt32.ofNat (ps.countP fun q => q.complete = c) + 1
      else UInt32.ofNat (ps.countP fun q => q.complete = c) := by
  rw [countP_complete_cons]
  split
  · exact UInt32.ofNat_add _ _
  · rfl

theorem Counted.remove {w : Swarm} (hw : w.Counted) (id : PeerId) :
    (w.remove id).2.Counted := by
  cases h : w.peers.get? id with
  | none =>
      refine hw.congr ?_ ?_
      · rw [remove_peers, Table.erase_eq_self h]
      · intro c
        simp only [Swarm.remove, h]
  | some p =>
      intro c
      -- the peer is the head of the bag, so the count of its kind is one more than without
      have hcount := hw c
      rw [tally, Table.bag_eq_cons h, ofNat_countP_cons] at hcount
      have hcounter : (w.remove id).2.counter c =
          if c = p.complete then w.counter c - 1 else w.counter c := by
        simp only [Swarm.remove, h]
        exact counter_countGone w p.complete c
      rw [hcounter, tally, remove_peers, hcount]
      split
      · exact UInt32.add_sub_cancel _ _
      · rfl

theorem Counted.removeAll {w : Swarm} (hw : w.Counted) (ids : List PeerId) :
    (w.removeAll ids).2.Counted :=
  removeAll_induction (P := Counted) (fun _ id h => h.remove id) w ids hw

theorem Counted.expire {w : Swarm} (hw : w.Counted) (now timeout : Int64) :
    (Store.expire now timeout w).1.Counted :=
  (hw.removeAll _).withProviders _

/-- The counters follow a report whether the peer is new, comes back the same or has
changed sides. -/
theorem Counted.savePeer {w : Swarm} (hw : w.Counted) (id : PeerId) (p : Peer) (u : Update) :
    (Store.savePeer w id p u).Counted := by
  intro c
  have hcounter : (Store.savePeer w id p u).counter c =
      (Store.recount w id u.complete).counter c := rfl
  have hcomplete : (w.reported id p u).complete = u.complete := rfl
  rw [hcounter, tally, savePeer_peers, Table.bag_insert, ofNat_countP_cons, hcomplete]
  have hcount := hw c
  rw [tally] at hcount
  unfold Store.recount
  cases h : w.peers.get? id with
  | none =>
      rw [Table.erase_eq_self h]
      simp only [counter_countNew, hcount]
  | some q =>
      rw [Table.bag_eq_cons h, ofNat_countP_cons] at hcount
      simp only [counter_transition, hcount]
      -- the peer leaves the count of `q.complete` and enters that of `u.complete`
      by_cases hsame : q.complete = u.complete
      · rw [if_pos hsame, hsame]
      · rw [if_neg hsame]
        by_cases hc : c = u.complete
        · have hq : ¬c = q.complete := fun e => hsame (e.symm.trans hc)
          rw [if_pos hc, if_pos hc, if_neg hq]
        · have hq : c = q.complete := eq_was_of_ne_now hsame hc
          rw [if_neg hc, if_neg hc, if_pos hq, UInt32.add_sub_cancel]

theorem Counted.accept {w : Swarm} (hw : w.Counted) (r : Snapshot.PeerRecord) :
    (w.accept r).Counted := by
  unfold Swarm.accept
  cases h : w.peers.get? r.id with
  | some p =>
      rw [if_pos (by simp [Table.contains, h])]
      exact hw
  | none =>
      rw [if_neg (by simp [Table.contains, h])]
      intro c
      have hcount := hw c
      rw [tally] at hcount ⊢
      show (w.countNew r.complete).counter c =
        UInt32.ofNat (Multiset.countP _ (w.peers.insert r.id r.toPeer).bag)
      rw [Table.bag_insert, Table.erase_eq_self h, ofNat_countP_cons, counter_countNew, hcount]
      rfl

theorem counted_ofRecord (r : Snapshot.SwarmRecord) : (ofRecord r).Counted := by
  obtain ⟨t, ht⟩ := ofRecord_eq r
  rw [ht]
  have hpeers : (r.peers.foldl Swarm.accept ∅).Counted :=
    foldl_accept_induction (fun _ p h => h.accept p) ∅ r.peers counted_empty
  exact hpeers.withProviders t

/-! ## Exact counters -/

/-- With fewer peers than a counter can tell apart, a counter is exact. -/
theorem Counted.toNat_counter {w : Swarm} (hw : w.Counted) (hsize : w.peers.size < 2 ^ 32)
    (c : Bool) : (w.counter c).toNat = w.tally c := by
  rw [hw c]
  exact UInt32.toNat_ofNat_of_lt' (Nat.lt_of_le_of_lt (tally_le_size w c) hsize)

/-- The counter that a peer of the swarm is in is not zero. -/
theorem Counted.counter_ne_zero {w : Swarm} (hw : w.Counted) (hsize : w.peers.size < 2 ^ 32)
    {id : PeerId} {p : Peer} (hp : w.peers.get? id = some p) : w.counter p.complete ≠ 0 := by
  intro hzero
  have hexact := hw.toNat_counter hsize p.complete
  rw [hzero] at hexact
  have hmem : p ∈ w.peers.bag := (Table.mem_bag _ _).mpr ⟨id, hp⟩
  have hpos : 0 < w.tally p.complete := Multiset.countP_pos.mpr ⟨p, hmem, rfl⟩
  exact absurd hexact.symm (Nat.pos_iff_ne_zero.mp hpos)

/-- The values of the counters that the removal of these peers lowers, each as it is
just before that. -/
def lowered (w : Swarm) : List PeerId → List UInt32
  | [] => []
  | id :: ids =>
    ((w.peers.get? id).map fun p => w.counter p.complete).toList ++ (w.remove id).2.lowered ids

theorem size_remove_le (w : Swarm) (id : PeerId) :
    (w.remove id).2.peers.size ≤ w.peers.size := by
  rw [remove_peers]
  exact List.length_filter_le _ _

/-- Removing peers, in any order and whoever is there, takes nothing from a zero. -/
theorem Counted.zero_notMem_lowered {w : Swarm} (hw : w.Counted)
    (hsize : w.peers.size < 2 ^ 32) (ids : List PeerId) : 0 ∉ w.lowered ids := by
  induction ids generalizing w with
  | nil => exact List.not_mem_nil
  | cons id ids ih =>
      intro hmem
      rw [lowered, List.mem_append] at hmem
      rcases hmem with hhere | hlater
      · rw [Option.mem_toList, Option.map_eq_some_iff] at hhere
        obtain ⟨p, hp, hzero⟩ := hhere
        exact hw.counter_ne_zero hsize hp hzero
      · have hless := Nat.lt_of_le_of_lt (size_remove_le w id) hsize
        exact ih (hw.remove id) hless hlater

end Swarm

end PeerTracker
