import Mathlib.Data.Finset.Card
import PeerTracker.Proofs.Recounts

/-!
# Totals over all swarms

Beside the counters of each swarm a tracker keeps totals of complete and incomplete
peers and, for each address, the number of records that announce from it. They too are
only ever adjusted: when a record enters, leaves, or is reported again. `Tallies` says
that they agree with a multiset of records; each adjustment keeps it, as the multiset
changes by that record (`kept_tallies`).

A count of zero is what makes an address forgotten, so for this a count must not wrap: a
record may only leave where there are at most `2 ^ 32` of them. Where a count does wrap,
the address is forgotten with records left at it, and the counts are then of some of the
records only (`CountsOnly`), though never of one that is not there. What adjustments keep
is kept by all that is done to a store (`Kept.exec`).
-/

namespace PeerTracker

namespace AddressCounts

/-- Every address in `ips` has its number of occurrences for a count, and no other
address has any. -/
def Counts (t : AddressCounts) (ips : Multiset Net.IpAddr) : Prop :=
  ∀ ip, t.get? ip = if ips.count ip = 0 then none else some (UInt32.ofNat (ips.count ip))

variable {t : AddressCounts} {ips : Multiset Net.IpAddr}

theorem Counts.add (h : Counts t ips) (ip : Net.IpAddr) : Counts (t.add ip) (ip ::ₘ ips) := by
  intro i
  rw [AddressCounts.add, Table.get?_insert]
  by_cases hi : i = ip
  · have hnext : (t.get? ip).getD 0 = UInt32.ofNat (ips.count ip) := by
      rw [h ip]
      split
      · next hzero =>
        rw [hzero]
        rfl
      · rfl
    rw [if_pos hi, hi, Multiset.count_cons_self, if_neg (Nat.succ_ne_zero _), hnext,
      UInt32.ofNat_add]
    rfl
  · rw [if_neg hi, Multiset.count_cons_of_ne hi, h i]

/-- With one record less at an address, the address is forgotten when its count has come to
zero, and all that were counted at it with it. -/
theorem Counts.remove_cases {ip : Net.IpAddr} (h : Counts t (ip ::ₘ ips)) :
    if UInt32.ofNat (ips.count ip) = 0 then Counts (t.remove ip) (ips.filter (· ≠ ip))
    else Counts (t.remove ip) ips := by
  have hget : t.get? ip = some (UInt32.ofNat (ips.count ip) + 1) := by
    rw [h ip, Multiset.count_cons_self, if_neg (Nat.succ_ne_zero _), UInt32.ofNat_add]
    rfl
  have hother : ∀ i, i ≠ ip → t.get? i =
      if ips.count i = 0 then none else some (UInt32.ofNat (ips.count i)) := by
    intro i hi
    rw [h i, Multiset.count_cons_of_ne hi]
  by_cases hzero : UInt32.ofNat (ips.count ip) = 0
  · rw [if_pos hzero]
    intro i
    simp only [AddressCounts.remove, hget, UInt32.add_sub_cancel, if_pos hzero]
    by_cases hi : i = ip
    · rw [Table.get?_erase, if_pos hi, Multiset.count_filter, if_neg (not_not.mpr hi), if_pos rfl]
    · rw [Table.get?_erase, if_neg hi, Multiset.count_filter, if_pos hi, hother i hi]
  · rw [if_neg hzero]
    intro i
    simp only [AddressCounts.remove, hget, UInt32.add_sub_cancel, if_neg hzero]
    by_cases hi : i = ip
    · subst hi
      have hpos : ips.count i ≠ 0 := fun e => hzero (e ▸ rfl)
      rw [Table.get?_insert_self, if_neg hpos]
    · rw [Table.get?_insert_of_ne _ _ hi, hother i hi]

theorem Counts.remove {ip : Net.IpAddr} (h : Counts t (ip ::ₘ ips))
    (hcard : (ip ::ₘ ips).card ≤ 2 ^ 32) : Counts (t.remove ip) ips := by
  have hlt : ips.count ip < 2 ^ 32 := by
    have hle := Multiset.count_le_card ip ips
    rw [Multiset.card_cons] at hcard
    omega
  have hcases := h.remove_cases
  split at hcases
  · next hzero =>
    -- below the width of a count, the last record is the only one at which it falls to zero
    have hnone : ips.count ip = 0 := by
      rw [← UInt32.toNat_inj, UInt32.toNat_ofNat_of_lt' hlt] at hzero
      exact hzero
    rwa [Multiset.filter_eq_self.mpr ?_] at hcases
    rintro i hi rfl
    exact Multiset.count_eq_zero.mp hnone hi
  · exact hcases

theorem Counts.change {old : Net.IpAddr} (h : Counts t (old ::ₘ ips))
    (hcard : (old ::ₘ ips).card ≤ 2 ^ 32) (new : Net.IpAddr) :
    Counts (t.change old new) (new ::ₘ ips) := by
  unfold AddressCounts.change
  by_cases hsame : old = new
  · rw [if_pos hsame, ← hsame]
    exact h
  · rw [if_neg hsame]
    exact (h.remove hcard).add new

theorem Counts.mem_keys (h : Counts t ips) (ip : Net.IpAddr) : ip ∈ t.keys ↔ ip ∈ ips := by
  rw [Table.mem_keys, ← Multiset.count_ne_zero, h ip]
  split
  · next hzero => simp [hzero]
  · next hpos => simp [hpos]

/-- The number of addresses that have a count is that of different addresses. -/
theorem Counts.size_eq (h : Counts t ips) : t.size = ips.toFinset.card := by
  have hkeys : t.keys.toFinset = ips.toFinset := by
    ext ip
    rw [List.mem_toFinset, Multiset.mem_toFinset, h.mem_keys]
  have hnodup : t.keys.Nodup := t.nodup
  rw [← hkeys, List.toFinset_card_of_nodup hnodup]
  simp [Table.size, Table.keys]

/-- The counts are those of some of these addresses. -/
def CountsOnly (t : AddressCounts) (ips : Multiset Net.IpAddr) : Prop :=
  ∃ known ≤ ips, t.Counts known

theorem CountsOnly.add (h : CountsOnly t ips) (ip : Net.IpAddr) :
    CountsOnly (t.add ip) (ip ::ₘ ips) := by
  obtain ⟨known, hle, hknown⟩ := h
  exact ⟨ip ::ₘ known, (Multiset.cons_le_cons_iff ip).mpr hle, hknown.add ip⟩

theorem CountsOnly.remove {ip : Net.IpAddr} (h : CountsOnly t (ip ::ₘ ips)) :
    CountsOnly (t.remove ip) ips := by
  obtain ⟨known, hle, hknown⟩ := h
  by_cases hmem : ip ∈ known
  · obtain ⟨rest, rfl⟩ := Multiset.exists_cons_of_mem hmem
    rw [Multiset.cons_le_cons_iff] at hle
    have hcases := hknown.remove_cases
    split at hcases
    · exact ⟨_, (Multiset.filter_le _ _).trans hle, hcases⟩
    · exact ⟨rest, hle, hcases⟩
  · -- an address that is not known has no count to take one from
    have hnone : t.get? ip = none := by
      rw [hknown ip, if_pos (Multiset.count_eq_zero.mpr hmem)]
    have hsame : t.remove ip = t := by
      simp only [AddressCounts.remove, hnone]
    rw [hsame]
    exact ⟨known, (Multiset.le_cons_of_notMem hmem).mp hle, hknown⟩

theorem CountsOnly.change {old : Net.IpAddr} (h : CountsOnly t (old ::ₘ ips)) (new : Net.IpAddr) :
    CountsOnly (t.change old new) (new ::ₘ ips) := by
  unfold AddressCounts.change
  by_cases hsame : old = new
  · rw [if_pos hsame, ← hsame]
    exact h
  · rw [if_neg hsame]
    exact h.remove.add new

/-- An address that has a count is one of these, as often as that at least. -/
theorem CountsOnly.toNat_le (h : CountsOnly t ips) {ip : Net.IpAddr} {n : UInt32}
    (hget : t.get? ip = some n) : ip ∈ ips ∧ n.toNat ≤ ips.count ip := by
  obtain ⟨known, hle, hknown⟩ := h
  rw [hknown ip] at hget
  split at hget
  · cases hget
  · next hpos =>
    cases hget
    refine ⟨Multiset.mem_of_le hle (Multiset.count_ne_zero.mp hpos), ?_⟩
    rw [UInt32.toNat_ofNat']
    exact (Nat.mod_le _ _).trans (Multiset.le_iff_count.mp hle ip)

end AddressCounts

namespace Stats

/-- The totals agree with these records. -/
structure Tallies (st : Stats) (ps : Multiset Peer) : Prop where
  kinds : ∀ c, st.read (kind c) = Int64.ofNat (ps.countP fun p => p.complete = c)
  addresses : st.addresses.Counts (ps.map Peer.ip)

theorem kind_eq_iff (c d : Bool) : kind c = kind d ↔ c = d := by
  cases c <;> cases d <;> decide

/-- The totals do not depend on the addresses. -/
theorem read_withAddresses (st : Stats) (t : AddressCounts) (c : Counter) :
    ({ st with addresses := t } : Stats).read c = st.read c := by
  cases c <;> rfl

theorem ofNat_countP_cons (p : Peer) (ps : Multiset Peer) (c : Bool) :
    Int64.ofNat ((p ::ₘ ps).countP fun q => q.complete = c) =
      if c = p.complete then Int64.ofNat (ps.countP fun q => q.complete = c) + 1
      else Int64.ofNat (ps.countP fun q => q.complete = c) := by
  rw [Swarm.countP_complete_cons]
  split
  · exact Int64.ofNat_add _ _
  · rfl

/-- The totals of complete and of incomplete peers agree with these records. -/
def KindsTally (st : Stats) (ps : Multiset Peer) : Prop :=
  ∀ c, st.read (kind c) = Int64.ofNat (ps.countP fun p => p.complete = c)

section Kinds

variable {st : Stats} {ps : Multiset Peer}

theorem KindsTally.enter (h : st.KindsTally ps) (p : Peer) :
    (st.enter p.complete p.ip).KindsTally (p ::ₘ ps) := by
  intro c
  rw [Stats.enter, read_withAddresses, read_add, ofNat_countP_cons, h c]
  simp only [kind_eq_iff]

theorem KindsTally.leave {p : Peer} (h : st.KindsTally (p ::ₘ ps)) :
    (st.leave p.complete p.ip).KindsTally ps := by
  intro c
  have hkind := h c
  rw [ofNat_countP_cons] at hkind
  rw [Stats.leave, read_withAddresses, read_add, hkind]
  simp only [kind_eq_iff]
  split
  · rw [← Int64.sub_eq_add_neg, Int64.add_sub_cancel]
  · rfl

theorem KindsTally.move {q : Peer} (h : st.KindsTally (q ::ₘ ps)) (p : Peer) :
    (st.move q.complete p.complete q.ip p.ip).KindsTally (p ::ₘ ps) := by
  intro c
  have hkind := h c
  rw [ofNat_countP_cons] at hkind
  rw [Stats.move, read_withAddresses, ofNat_countP_cons]
  by_cases hsame : q.complete = p.complete
  · rw [if_pos hsame, hkind, hsame]
  · rw [if_neg hsame, read_add, read_add, hkind]
    simp only [kind_eq_iff]
    by_cases hc : c = p.complete
    · have hq : ¬c = q.complete := fun e => hsame (e.symm.trans hc)
      rw [if_pos hc, if_pos hc, if_neg hq, if_neg hq]
    · have hq : c = q.complete := Swarm.eq_was_of_ne_now hsame hc
      rw [if_neg hc, if_neg hc, if_pos hq, if_pos hq, ← Int64.sub_eq_add_neg,
        Int64.add_sub_cancel]

end Kinds

/-- The totals are those of these records, except that of the records at an address some
may be missing in its count. -/
structure CountsOnly (st : Stats) (ps : Multiset Peer) : Prop where
  kinds : st.KindsTally ps
  addresses : st.addresses.CountsOnly (ps.map Peer.ip)

/-- A relation of totals to records that goes on holding when a record enters, or when one
of records that fit leaves or is reported again. -/
structure Kept (Fits : Multiset Peer → Prop) (Holds : Stats → Multiset Peer → Prop) : Prop where
  enter : ∀ {st ps} (p : Peer), Holds st ps → Holds (st.enter p.complete p.ip) (p ::ₘ ps)
  leave : ∀ {st ps} {p : Peer}, Holds st (p ::ₘ ps) → Fits (p ::ₘ ps) →
    Holds (st.leave p.complete p.ip) ps
  move : ∀ {st ps} {q : Peer} (p : Peer), Holds st (q ::ₘ ps) → Fits (q ::ₘ ps) →
    Holds (st.move q.complete p.complete q.ip p.ip) (p ::ₘ ps)
  fewer : ∀ {ps qs}, ps ≤ qs → Fits qs → Fits ps

theorem kept_tallies : Kept (fun ps => ps.card ≤ 2 ^ 32) Tallies where
  enter := by
    intro st ps p h
    refine ⟨KindsTally.enter h.kinds p, ?_⟩
    rw [Multiset.map_cons]
    exact h.addresses.add p.ip
  leave := by
    intro st ps p h hcard
    have haddresses := h.addresses
    rw [Multiset.map_cons] at haddresses
    refine ⟨KindsTally.leave h.kinds, haddresses.remove ?_⟩
    rwa [← Multiset.map_cons, Multiset.card_map]
  move := by
    intro st ps q p h hcard
    have haddresses := h.addresses
    rw [Multiset.map_cons] at haddresses
    refine ⟨KindsTally.move h.kinds p, ?_⟩
    rw [Multiset.map_cons]
    refine haddresses.change ?_ p.ip
    rwa [← Multiset.map_cons, Multiset.card_map]
  fewer := fun hle hcard => (Multiset.card_le_card hle).trans hcard

theorem kept_countsOnly : Kept (fun _ => True) CountsOnly where
  enter := by
    intro st ps p h
    refine ⟨h.kinds.enter p, ?_⟩
    rw [Multiset.map_cons]
    exact h.addresses.add p.ip
  leave := by
    intro st ps p h _
    have haddresses := h.addresses
    rw [Multiset.map_cons] at haddresses
    exact ⟨h.kinds.leave, haddresses.remove⟩
  move := by
    intro st ps q p h _
    have haddresses := h.addresses
    rw [Multiset.map_cons] at haddresses
    refine ⟨h.kinds.move p, ?_⟩
    rw [Multiset.map_cons]
    exact haddresses.change p.ip
  fewer := fun _ _ => trivial

theorem Tallies.countsOnly {st : Stats} {ps : Multiset Peer} (h : st.Tallies ps) :
    st.CountsOnly ps :=
  ⟨h.kinds, _, le_rfl, h.addresses⟩

end Stats

/-! ## The records of a store -/

/-- The peer records of all swarms. -/
def State.records (s : State) : List Peer := s.swarms.values.flatMap fun w => w.peers.values

/-- The peer records of a table of swarms, in no order. -/
def crowd (t : Table InfoHash Swarm) : Multiset Peer := t.bag.bind fun w => w.peers.bag

theorem State.coe_records (s : State) : (↑s.records : Multiset Peer) = crowd s.swarms :=
  (Multiset.coe_bind s.swarms.values fun w => w.peers.values).symm

theorem crowd_insert (t : Table InfoHash Swarm) (hash : InfoHash) (w : Swarm) :
    crowd (t.insert hash w) = w.peers.bag + crowd (t.erase hash) := by
  rw [crowd, Table.bag_insert, Multiset.cons_bind]
  rfl

theorem crowd_eq_add {t : Table InfoHash Swarm} {hash : InfoHash} {w : Swarm}
    (h : t.get? hash = some w) : crowd t = w.peers.bag + crowd (t.erase hash) := by
  rw [← crowd_insert, Table.insert_eq_self h]

theorem crowd_openSwarm {s : State} (hs : s.Sound) (hash : InfoHash) :
    crowd s.swarms = (Store.openSwarm s hash).peers.bag + crowd (s.swarms.erase hash) := by
  cases h : s.swarm? hash with
  | none =>
      have hbag : (∅ : Swarm).peers.bag = 0 := rfl
      rw [Store.openSwarm_of_none h, Table.erase_eq_self h, hbag, zero_add]
  | some w =>
      rw [Store.openSwarm_eq h (hs hash w h).live]
      exact crowd_eq_add h

/-- The totals of a state agree with its records. -/
def State.Balanced (s : State) : Prop := s.stats.Tallies (crowd s.swarms)

/-- The totals of a state have nothing of a record that is not in it. -/
def State.CountsOnlyRecords (s : State) : Prop := s.stats.CountsOnly (crowd s.swarms)

section Records

variable {s : State} (h : s.CountsOnlyRecords)
include h

theorem State.CountsOnlyRecords.kinds_records (c : Bool) :
    s.stats.read (Stats.kind c) = Int64.ofNat (s.records.countP fun p => p.complete = c) := by
  rw [h.kinds c, ← State.coe_records, Multiset.coe_countP]

theorem State.CountsOnlyRecords.address_records {ip : Net.IpAddr} {n : UInt32}
    (hget : s.stats.addresses.get? ip = some n) :
    ip ∈ s.records.map Peer.ip ∧ n.toNat ≤ (s.records.map Peer.ip).count ip := by
  have honly := h.addresses.toNat_le hget
  rwa [← State.coe_records, Multiset.map_coe, Multiset.mem_coe, Multiset.coe_count] at honly

end Records

/-- The records there are while an action is under way: those of the store and, when an
entry is loaded, those of the entry, before they replace any. -/
def Action.crowd (s : State) : Action → Multiset Peer
  | command _ => PeerTracker.crowd s.swarms
  | entry r => (Swarm.ofRecord r).peers.bag + PeerTracker.crowd s.swarms

/-- How many these are. -/
def Action.held (s : State) : Action → Nat
  | command _ => s.records.length
  | entry r => (Swarm.ofRecord r).peers.size + s.records.length

theorem State.card_crowd (s : State) : (crowd s.swarms).card = s.records.length := by
  rw [← State.coe_records, Multiset.coe_card]

theorem Action.card_crowd (s : State) (a : Action) : (a.crowd s).card = a.held s := by
  cases a with
  | command c => exact s.card_crowd
  | entry r => rw [crowd, Multiset.card_add, Table.card_bag, s.card_crowd, held]

namespace Stats.Kept

variable {Fits : Multiset Peer → Prop} {Holds : Stats → Multiset Peer → Prop}
  (hk : Kept Fits Holds)
include hk

/-- Records that are released leave the totals one after the other. -/
theorem foldl_release {s : State} {ps : Multiset Peer} (gone : List Peer)
    (h : Holds s.stats (↑gone + ps)) (hfits : Fits (↑gone + ps)) :
    Holds (gone.foldl (State.release false) s).stats ps := by
  induction gone generalizing s with
  | nil => rwa [Multiset.coe_nil, zero_add] at h
  | cons p gone ih =>
      rw [← Multiset.cons_coe, Multiset.cons_add] at h hfits
      exact ih (hk.leave h hfits) (hk.fewer (Multiset.le_cons_self _ p) hfits)

/-- Peers that are loaded enter the totals before the store has them. -/
theorem foldl_loadPeer (rs : List Snapshot.PeerRecord) (w : Swarm) (s : State)
    {ps : Multiset Peer} (h : Holds s.stats (w.peers.bag + ps)) :
    Holds (rs.foldl (Store.loadPeer false) (w, s)).2.stats
      ((rs.foldl Swarm.accept w).peers.bag + ps) := by
  induction rs generalizing w s with
  | nil => exact h
  | cons r rs ih =>
      have hpair : Store.loadPeer false (w, s) r =
          (w.accept r, (Store.loadPeer false (w, s) r).2) := by
        rw [← Store.loadPeer_fst false (w, s) r]
      rw [List.foldl_cons, List.foldl_cons, hpair]
      apply ih
      cases hid : w.peers.get? r.id with
      | some p =>
          have hknown : w.peers.contains r.id = true := by simp [Table.contains, hid]
          simp only [Store.loadPeer, Swarm.accept, hknown, if_true]
          exact h
      | none =>
          have hnew : w.peers.contains r.id = false := by simp [Table.contains, hid]
          simp only [Store.loadPeer, Swarm.accept, hnew, Bool.false_eq_true, if_false]
          rw [Table.bag_insert, Table.erase_eq_self hid, Multiset.cons_add]
          exact hk.enter r.toPeer h

variable {rules : StoreRules} (hfast : rules.fast = false) {s : State}
include hfast

theorem save (hs : s.Sound) (h : Holds s.stats (crowd s.swarms)) (hfits : Fits (crowd s.swarms))
    (hash : InfoHash) (id : PeerId) (u : Update) :
    Holds (Store.save rules s hash id u).2.stats
      (crowd (Store.save rules s hash id u).2.swarms) := by
  obtain ⟨t, hswarms⟩ := Store.save_swarms rules s hash id u
  have hopen := crowd_openSwarm hs hash
  have hstats : (Store.save rules s hash id u).2.stats =
      s.stats.track false ((Store.openSwarm s hash).peers.get? id) u.complete u.ip := by
    rw [← hfast]
    rfl
  let p := (Store.openSwarm s hash).reported id
    (Store.record (Store.openSwarm s hash).peers id s.pools).1 u
  rw [hswarms, crowd_insert, hstats]
  dsimp only
  rw [Swarm.savePeer_peers, Table.bag_insert, Multiset.cons_add]
  rw [hopen] at h hfits
  -- the peer is new, or its old record gives way to the new one
  cases hid : (Store.openSwarm s hash).peers.get? id with
  | none =>
      rw [Table.erase_eq_self hid]
      exact hk.enter p h
  | some q =>
      rw [Table.bag_eq_cons hid, Multiset.cons_add] at h hfits
      exact hk.move p h hfits

theorem drop (h : Holds s.stats (crowd s.swarms)) (hfits : Fits (crowd s.swarms))
    (hash : InfoHash) (id : PeerId) (provider : Bool) :
    Holds (Store.drop rules s hash id provider).stats
      (crowd (Store.drop rules s hash id provider).swarms) := by
  cases hw : s.swarm? hash with
  | none =>
      rw [Store.drop_of_none rules hw]
      exact h
  | some w =>
      obtain ⟨hswarms, hstats⟩ := Store.drop_spec rules hw id provider
      rw [hswarms, crowd_insert, hstats, Store.dropped, Swarm.remove_peers]
      rw [crowd_eq_add hw] at h hfits
      cases hid : w.peers.get? id with
      | none =>
          rw [Table.erase_eq_self hid]
          exact h
      | some p =>
          rw [Table.bag_eq_cons hid, Multiset.cons_add] at h hfits
          simp only [hfast, Bool.false_eq_true, if_false]
          exact hk.leave h hfits

/-- A sweep releases what expires, swarm by swarm; the records only get fewer. -/
theorem trim (h : Holds s.stats (crowd s.swarms)) (hfits : Fits (crowd s.swarms))
    (now timeout : Int64) :
    Holds (Store.trim rules s now timeout).2.stats
      (crowd (Store.trim rules s now timeout).2.swarms) := by
  let P : State → Prop := fun s => Holds s.stats (crowd s.swarms) ∧ Fits (crowd s.swarms)
  have hturn : ∀ (acc : Trimmed × State) (hash : InfoHash) (w : Swarm), P acc.2 →
      acc.2.swarm? hash = some w → P (Store.trimHash rules.fast now timeout acc (hash, w)).2 := by
    rintro acc hash w ⟨h, hfits⟩ hw
    obtain ⟨hswarms, hstats⟩ := Store.trimHash_spec rules.fast now timeout acc (hash, w)
    have hbag := Swarm.expire_bag w now timeout
    rw [crowd_eq_add hw, ← hbag, add_assoc] at h hfits
    have hleft : crowd (Store.trimHash rules.fast now timeout acc (hash, w)).2.swarms =
        (Store.expire now timeout w).1.peers.bag + crowd (acc.2.swarms.erase hash) := by
      rw [hswarms]
      cases htrim : Store.trimmed now timeout w with
      | none =>
          rw [Table.bag_eq_zero_of_isEmpty (Store.trimmed_eq_none htrim), zero_add]
      | some v =>
          obtain ⟨rfl, -⟩ := Store.trimmed_eq_some htrim
          exact crowd_insert _ _ _
    constructor
    · rw [hleft, hstats, hfast]
      exact hk.foldl_release _ h hfits
    · rw [hleft]
      exact hk.fewer (Multiset.le_add_left _ _) hfits
  exact (Store.trim_induction rules now timeout hturn s ⟨h, hfits⟩).1

/-- The records of a swarm that an entry replaces leave after those of the entry have
entered. -/
theorem loadEntry (h : Holds s.stats (crowd s.swarms)) (acc : Nat × Nat)
    (r : Snapshot.SwarmRecord)
    (hfits : Fits ((Swarm.ofRecord r).peers.bag + crowd s.swarms)) :
    Holds (Store.loadEntry rules.fast (acc, s) r).2.stats
      (crowd (Store.loadEntry rules.fast (acc, s) r).2.swarms) := by
  have hloaded : Holds (r.peers.foldl (Store.loadPeer false) (∅, s)).2.stats
      ((Swarm.ofRecord r).peers.bag + crowd s.swarms) := by
    rw [Swarm.ofRecord_peers]
    apply hk.foldl_loadPeer
    have hbag : (∅ : Swarm).peers.bag = 0 := rfl
    rw [hbag, zero_add]
    exact h
  rw [Store.loadEntry_snd, hfast]
  split
  · next hempty =>
    rw [(Store.foldl_loadPeer false r.peers (∅, s)).2]
    rwa [Table.bag_eq_zero_of_isEmpty hempty, zero_add] at hloaded
  · rw [Store.replace_swarms, Store.assembled_swarms, crowd_insert]
    rw [← Store.assembled_stats] at hloaded
    unfold Store.replace
    have hfind : (Store.assembled false s r).swarm? r.hash = s.swarm? r.hash := by
      rw [State.swarm?, Store.assembled_swarms]
      rfl
    cases hold : s.swarm? r.hash with
    | none =>
        simp only [hfind, hold]
        rw [Table.erase_eq_self hold]
        exact hloaded
    | some old =>
        simp only [hfind, hold]
        -- here the totals have the peers of both swarms; now those of the old one leave
        obtain ⟨gone, hgone, hstats⟩ := Store.retire_stats false
          ((Store.assembled false s r).setSwarm r.hash (Swarm.ofRecord r)) old
        rw [hstats]
        have hsplit : (Swarm.ofRecord r).peers.bag + crowd s.swarms =
            ↑gone + ((Swarm.ofRecord r).peers.bag + crowd (s.swarms.erase r.hash)) := by
          rw [crowd_eq_add hold, hgone, add_left_comm]
        rw [hsplit] at hloaded hfits
        exact hk.foldl_release gone hloaded hfits

/-- What adjustments keep, actions keep. -/
theorem exec (s : State) (a : Action) (h : s.Sound ∧ Holds s.stats (crowd s.swarms))
    (hfits : Fits (a.crowd s)) :
    (a.exec rules s).Sound ∧ Holds (a.exec rules s).stats (crowd (a.exec rules s).swarms) := by
  obtain ⟨hs, h⟩ := h
  refine ⟨hs.exec s a, ?_⟩
  cases a with
  | entry r => exact hk.loadEntry hfast h (0, 0) r hfits
  | command c =>
      cases c with
      | save hash id u => exact hk.save hfast hs h hfits hash id u
      | drop hash id provider => exact hk.drop hfast h hfits hash id provider
      | trim now timeout => exact hk.trim hfast h hfits now timeout

end Stats.Kept

theorem State.Balanced.exec {rules : StoreRules} (hfast : rules.fast = false) (s : State)
    (a : Action) (h : s.Sound ∧ s.Balanced) (hheld : a.held s < 2 ^ 32) :
    (a.exec rules s).Sound ∧ (a.exec rules s).Balanced :=
  Stats.kept_tallies.exec hfast s a h (Nat.le_of_lt (a.card_crowd s ▸ hheld))

theorem State.balanced_fresh (limit : Nat) (random : RandomSource) :
    (State.fresh limit random).Balanced := by
  refine ⟨?_, ?_⟩
  · intro c
    cases c <;> rfl
  · intro ip
    rfl

/-- The totals are a recount of the records. -/
structure State.Recounted (s : State) : Prop where
  seeds : s.stats.seeds.toInt = s.records.countP (fun p => p.complete)
  leeches : s.stats.leeches.toInt = s.records.countP (fun p => !p.complete)
  addresses : ∀ ip, (s.stats.addresses.get? ip).map UInt32.toNat =
    if ip ∈ s.records.map Peer.ip then some ((s.records.map Peer.ip).count ip) else none
  uniqueIps : s.stats.uniqueIps.toInt = (s.records.map Peer.ip).toFinset.card

/-- Totals that agree with fewer than `2 ^ 32` records have not wrapped. -/
theorem State.Balanced.recounted {s : State} (hb : s.Balanced) (hend : s.records.length < 2 ^ 32) :
    s.Recounted := by
  rw [State.Balanced, ← State.coe_records] at hb
  have hkind : ∀ c, (s.stats.read (Stats.kind c)).toInt =
      s.records.countP (fun p => decide (p.complete = c)) := by
    intro c
    rw [hb.kinds c, Multiset.coe_countP]
    apply Int64.toInt_ofNat_of_lt
    have hle := List.countP_le_length (p := fun p : Peer => decide (p.complete = c))
      (l := s.records)
    omega
  have haddresses := hb.addresses
  rw [Multiset.map_coe] at haddresses
  refine ⟨?_, ?_, ?_, ?_⟩
  · have h := hkind true
    simp only [Bool.decide_eq_true] at h
    exact h
  · have h := hkind false
    simp only [Bool.decide_eq_false] at h
    exact h
  · intro ip
    rw [haddresses ip, Multiset.coe_count]
    by_cases hmem : ip ∈ s.records.map Peer.ip
    · have hlt : (s.records.map Peer.ip).count ip < 2 ^ 32 := by
        have hle := List.count_le_length (a := ip) (l := s.records.map Peer.ip)
        rw [List.length_map] at hle
        omega
      have hpos : (s.records.map Peer.ip).count ip ≠ 0 :=
        Nat.pos_iff_ne_zero.mp (List.count_pos_iff.mpr hmem)
      rw [if_neg hpos, if_pos hmem, Option.map_some, UInt32.toNat_ofNat_of_lt' hlt]
    · rw [if_pos (List.count_eq_zero.mpr hmem), if_neg hmem, Option.map_none]
  · have hsize : s.stats.addresses.size = (s.records.map Peer.ip).toFinset.card :=
      haddresses.size_eq
    have hle : (s.records.map Peer.ip).toFinset.card ≤ s.records.length := by
      have h := List.toFinset_card_le (s.records.map Peer.ip)
      rwa [List.length_map] at h
    rw [Stats.uniqueIps, hsize]
    exact Int64.toInt_ofNat_of_lt (by omega)

/-! ## The totals after a run -/

/-- **The totals are a recount.** Where the bookkeeping is kept, after any operations on a
fresh tracker with fewer than `2 ^ 32` records at any time, `seeds` and `leeches` are the
numbers of complete and of incomplete peer records over all swarms. An address has a
count exactly if some record is at it, and the count is then the number of records at
it, so that `uniqueIps` is the number of different addresses in the store. -/
theorem totals_are_recounts (rules : StoreRules) (hfast : rules.fast = false) (limit : Nat)
    (random : RandomSource) (ops : List Operation) :
    let start := State.fresh limit random
    let s := ops.foldl (Operation.exec rules) start
    (∀ x ∈ trail rules start (ops.flatMap Operation.actions), x.2.held x.1 < 2 ^ 32) →
    s.records.length < 2 ^ 32 →
    s.stats.seeds.toInt = s.records.countP (fun p => p.complete) ∧
      s.stats.leeches.toInt = s.records.countP (fun p => !p.complete) ∧
      (∀ ip, (s.stats.addresses.get? ip).map UInt32.toNat =
        if ip ∈ s.records.map Peer.ip then some ((s.records.map Peer.ip).count ip) else none) ∧
      s.stats.uniqueIps.toInt = (s.records.map Peer.ip).toFinset.card := by
  intro start s hheld hend
  have hrun := holds_on_trail (State.Balanced.exec hfast) (ops.flatMap Operation.actions) start
    ⟨State.sound_fresh limit random, State.balanced_fresh limit random⟩ hheld
  rw [← Operation.foldl_exec_eq] at hrun
  obtain ⟨hseeds, hleeches, haddresses, hips⟩ := State.Balanced.recounted hrun.2.2 hend
  exact ⟨hseeds, hleeches, haddresses, hips⟩

/-- After the sample run, two records of different kinds are at one address. -/
theorem totals_are_recounts_sample_run :
    let start := State.fresh 50 (.ofList [])
    let s := sampleRun.foldl (Operation.exec ⟨2, false⟩) start
    s.records.length = 2 ∧ s.stats.seeds.toInt = 1 ∧ s.stats.leeches.toInt = 1 ∧
      s.stats.uniqueIps.toInt = (s.records.map Peer.ip).toFinset.card := by
  intro start s
  have hheld : ∀ x ∈ trail ⟨2, false⟩ start (sampleRun.flatMap Operation.actions),
      x.2.held x.1 < 2 ^ 32 := by decide +kernel
  have hlength : s.records.length = 2 := by decide +kernel
  have hend : s.records.length < 2 ^ 32 := by
    rw [hlength]
    decide
  obtain ⟨hseeds, hleeches, -, hips⟩ :=
    totals_are_recounts ⟨2, false⟩ rfl 50 (.ofList []) sampleRun hheld hend
  have hcomplete : s.records.countP (fun p => p.complete) = 1 := by decide +kernel
  have hincomplete : s.records.countP (fun p => !p.complete) = 1 := by decide +kernel
  refine ⟨hlength, ?_, ?_, hips⟩
  · rw [hseeds, hcomplete]
    rfl
  · rw [hleeches, hincomplete]
    rfl

end PeerTracker
