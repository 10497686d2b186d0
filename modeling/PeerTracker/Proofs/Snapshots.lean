import PeerTracker.Proofs.Loading
import PeerTracker.Proofs.SnapshotCodec

/-!
# Saving a store and restoring it

A snapshot of a store, restored into a fresh one, brings back every swarm that has peers
(`swarm?_load_snapshot`), with both tables in their order. Of a record only the number of
incomplete peers that it remembers is lost: `Peer.forget` and `Swarm.forget` are what
comes back. The totals are a recount again, unless the bookkeeping is left out.
-/

namespace PeerTracker

open Snapshot

/-- A record without what a snapshot does not keep of it. -/
def Peer.forget (p : Peer) : Peer := { p with leechersLastTime := 0 }

/-- A swarm whose records are as a snapshot keeps them. -/
def Swarm.forget (w : Swarm) : Swarm :=
  { w with
    peers := w.peers.mapValues Peer.forget
    providers := w.providers.mapValues Peer.forget }

namespace Swarm

theorem forget_counted {w : Swarm} (hw : w.Counted) : w.forget.Counted := by
  intro c
  have htally : w.forget.tally c = w.tally c := by
    show (w.peers.mapValues Peer.forget).bag.countP _ = _
    rw [Table.bag_mapValues, Multiset.countP_map, ← Multiset.countP_eq_card_filter]
    rfl
  rw [htally]
  exact hw c

/-- A swarm is determined by its tables if its counters are a count. -/
theorem eq_of_counted {w v : Swarm} (hw : w.Counted) (hv : v.Counted)
    (hpeers : v.peers = w.peers) (hproviders : v.providers = w.providers)
    (hretired : v.retired = w.retired) : v = w := by
  have hcounter : ∀ c, v.counter c = w.counter c := by
    intro c
    rw [hv c, hw c, tally, tally, hpeers]
  obtain ⟨peers, providers, complete, incomplete, retired⟩ := w
  obtain ⟨peers', providers', complete', incomplete', retired'⟩ := v
  obtain rfl : peers' = peers := hpeers
  obtain rfl : providers' = providers := hproviders
  obtain rfl : complete' = complete := hcounter true
  obtain rfl : incomplete' = incomplete := hcounter false
  obtain rfl : retired' = retired := hretired
  rfl

theorem ofRecord_swarmRecord_peers (hash : InfoHash) (w : Swarm) :
    (ofRecord (Store.swarmRecord hash w)).peers = w.peers.mapValues Peer.forget := by
  apply Table.eq_of_entries
  rw [ofRecord_peers]
  have hstep : ∀ (v : Swarm) (r : PeerRecord), v.peers.get? r.id = none →
      (v.accept r).peers = v.peers.insert r.id r.toPeer := by
    intro v r hnone
    rw [accept, if_neg (by simp [Table.contains, hnone])]
  have hnodup : ((Store.swarmRecord hash w).peers.map PeerRecord.id).Nodup := by
    show ((w.peers.entries.map fun e => PeerRecord.ofPeer e.1 e.2).map PeerRecord.id).Nodup
    rw [List.map_map]
    exact w.peers.nodup
  have hfold := Table.entries_foldl Swarm.peers accept PeerRecord.id PeerRecord.toPeer hstep
    (Store.swarmRecord hash w).peers ∅ hnodup
  rw [hfold]
  show (w.peers.entries.map fun e => PeerRecord.ofPeer e.1 e.2).map _ = _
  rw [List.map_map]
  rfl

theorem ofRecord_swarmRecord_providers (hash : InfoHash) (w : Swarm) :
    (ofRecord (Store.swarmRecord hash w)).providers = w.providers.mapValues Peer.forget := by
  apply Table.eq_of_entries
  have hnone := foldl_accept_providers (Store.swarmRecord hash w).peers
  have hnodup : ((Store.swarmRecord hash w).providers.map PeerRecord.id).Nodup := by
    show ((w.providers.entries.map fun e => PeerRecord.ofPeer e.1 e.2).map PeerRecord.id).Nodup
    rw [List.map_map]
    exact w.providers.nodup
  have hfold := Table.entries_foldl Swarm.providers acceptProvider PeerRecord.id
    PeerRecord.toPeer (fun _ _ _ => rfl) (Store.swarmRecord hash w).providers
    ((Store.swarmRecord hash w).peers.foldl accept ∅) (by rw [hnone]; exact hnodup)
  rw [ofRecord, hfold, hnone]
  show (w.providers.entries.map fun e => PeerRecord.ofPeer e.1 e.2).map _ = _
  rw [List.map_map]
  rfl

/-- The entry of a swarm describes that swarm. -/
theorem ofRecord_swarmRecord {w : Swarm} (hw : w.Sound) (hash : InfoHash) :
    ofRecord (Store.swarmRecord hash w) = w.forget :=
  eq_of_counted (forget_counted hw.counted) (counted_ofRecord _)
    (ofRecord_swarmRecord_peers hash w) (ofRecord_swarmRecord_providers hash w)
    ((ofRecord_retired _).trans hw.live.symm)

end Swarm

namespace Store

/-- The swarms that a snapshot holds. -/
def kept (s : State) : Table InfoHash Swarm := s.swarms.filter fun _ w => !w.peers.isEmpty

section Kept

variable {s : State} (hs : s.Sound)
include hs

theorem snapshot_eq : snapshot s = (kept s).entries.map fun e => swarmRecord e.1 e.2 := by
  have hfilter : (s.swarms.filter fun _ w => !w.retired && !w.peers.isEmpty) = kept s := by
    apply Table.filter_congr
    intro e he
    rw [(hs e.1 e.2 ((Table.get?_eq_some_iff _ _ _).mpr he)).live, Bool.not_false, Bool.true_and]
  rw [← hfilter]
  rfl

/-- Every entry of a snapshot has peers. -/
theorem peopled_snapshot : peopled (snapshot s) = snapshot s := by
  rw [snapshot_eq hs]
  apply List.filter_eq_self.mpr
  intro r hr
  obtain ⟨e, he, rfl⟩ := List.mem_map.mp hr
  have hpeers := (List.mem_filter.mp he).2
  simpa [swarmRecord, Table.isEmpty] using hpeers

theorem lastEntry_snapshot (hash : InfoHash) :
    lastEntry (snapshot s) hash = ((kept s).get? hash).map (swarmRecord hash) := by
  have hfilter : (snapshot s).filter (fun r => r.hash = hash) =
      ((kept s).get? hash).toList.map (swarmRecord hash) := by
    rw [snapshot_eq hs, ← Table.filter_key, List.filter_map, List.map_map]
    apply List.map_congr_left
    intro e he
    have hkey : e.1 = hash := of_decide_eq_true (List.mem_filter.mp he).2
    rw [Function.comp_apply, hkey]
  rw [lastEntry, peopled_snapshot hs, hfilter]
  cases (kept s).get? hash <;> rfl

variable (rules : StoreRules) {t : State} (ht : ∀ hash, t.swarm? hash = none)
include ht

theorem swarm?_load_snapshot (hash : InfoHash) :
    (load rules t (snapshot s)).2.swarm? hash = ((kept s).get? hash).map Swarm.forget := by
  rw [swarm?_load, lastEntry_snapshot hs, ht]
  cases hw : (kept s).get? hash with
  | none => rfl
  | some w =>
      rw [kept, Table.get?_filter, Option.filter_eq_some_iff] at hw
      exact congrArg some (Swarm.ofRecord_swarmRecord (hs hash w hw.1) hash)

theorem load_snapshot_perm :
    (load rules t (snapshot s)).2.swarms.entries.Perm
      ((kept s).mapValues Swarm.forget).entries := by
  apply Table.perm_of_get?
  intro hash
  rw [Table.get?_mapValues]
  exact swarm?_load_snapshot hs rules ht hash

theorem load_snapshot_hashes : (load rules t (snapshot s)).2.hashes = (snapshot s).length := by
  rw [State.hashes, Table.size, (load_snapshot_perm hs rules ht).length_eq, snapshot_eq hs,
    List.length_map]
  exact List.length_map _

/-- The records of all swarms come back. -/
theorem load_snapshot_records :
    (load rules t (snapshot s)).2.records.Perm (s.records.map Peer.forget) := by
  have hkept : ((kept s).mapValues Swarm.forget).values.flatMap (fun w => w.peers.values) =
      s.records.map Peer.forget := by
    have hnone : ∀ w : Swarm, (!w.peers.isEmpty) = false → w.forget.peers.values = [] := by
      intro w hw
      rw [Bool.not_eq_false'] at hw
      simp [Swarm.forget, Table.mapValues, Table.values, List.isEmpty_iff.mp hw]
    rw [Table.values_mapValues, List.flatMap_map, kept, Table.flatMap_values_filter _ hnone,
      State.records, List.map_flatMap]
    congr 1
    funext w
    exact Table.values_mapValues _ _
  rw [← hkept]
  exact ((load_snapshot_perm hs rules ht).map Prod.snd).flatMap_right _

theorem load_snapshot_peers : (load rules t (snapshot s)).2.peers = s.peers := by
  rw [State.peers_eq, (load_snapshot_records hs rules ht).length_eq, List.length_map,
    State.peers_eq]

omit ht in
/-- The peers of a snapshot are those of the store. -/
theorem sum_peers_snapshot : ((snapshot s).map fun r => r.peers.length).sum = s.peers := by
  have hnone : ∀ w : Swarm, (!w.peers.isEmpty) = false → w.peers.values = [] := by
    intro w hw
    rw [Bool.not_eq_false'] at hw
    exact List.map_eq_nil_iff.mpr (List.isEmpty_iff.mp hw)
  have hkept : (kept s).values.flatMap (fun w => w.peers.values) = s.records :=
    Table.flatMap_values_filter s.swarms hnone
  rw [State.peers_eq, ← hkept, List.length_flatMap, snapshot_eq hs, Table.values, List.map_map,
    List.map_map]
  congr 1
  apply List.map_congr_left
  intro e _
  simp [swarmRecord, Table.values]

omit ht in
theorem sum_ids_snapshot : ((snapshot s).map fun r => r.ids.card).sum = s.peers := by
  rw [← sum_peers_snapshot hs, snapshot_eq hs, List.map_map, List.map_map]
  congr 1
  apply List.map_congr_left
  intro e _
  show (swarmRecord e.1 e.2).ids.card = _
  rw [← Swarm.ofRecord_peers_size, Swarm.ofRecord_swarmRecord_peers]
  simp [Table.mapValues, Table.size, swarmRecord]

end Kept

end Store

/-- **A snapshot brings the store back.** Let a store have come about in any way, and let the
two formats of a snapshot give back what they are given. Its snapshot can be restored into a
fresh tracker, which then has the swarms of the store that have peers and no other: with
the same peers and providers, each record as it was apart from `leechersLastTime`, which
is zero, and with the same counters. The numbers returned are the peers and the swarms
that it has then, and there are as many peers as in the store. The totals are a recount of
these swarms if the bookkeeping is kept; if it is left out they stay as they are. -/
theorem snapshot_round_trip (rules rules' : StoreRules) {s : State}
    (hs : s.Arises rules State.Any) (hfaithful : Faithful (Store.snapshot s)) (limit : Nat)
    (random : RandomSource) :
    let start := State.fresh limit random
    let out := Store.restore rules' start (encode (Store.snapshot s))
    let t := out.2
    (∀ hash, t.swarm? hash =
      ((s.swarm? hash).filter fun w => !w.peers.isEmpty).map Swarm.forget) ∧
    out.1 = .ok (t.peers, t.hashes) ∧ t.peers = s.peers ∧
    (rules'.fast = false → t.Balanced) ∧ (rules'.fast = true → t.stats = start.stats) := by
  intro start out t
  have hsound := hs.sound
  have hempty : ∀ hash, start.swarm? hash = none := fun _ => rfl
  have hout : out = (.ok (Store.load rules' start (Store.snapshot s)).1,
      (Store.load rules' start (Store.snapshot s)).2) := by
    show Store.restore rules' start (encode (Store.snapshot s)) = _
    simp only [Store.restore, decode_encode hfaithful]
  have ht : t = (Store.load rules' start (Store.snapshot s)).2 := congrArg Prod.snd hout
  have hpeers : t.peers = s.peers := by
    rw [ht]
    exact Store.load_snapshot_peers hsound rules' hempty
  refine ⟨?_, ?_, hpeers, ?_, ?_⟩
  · intro hash
    rw [ht, Store.swarm?_load_snapshot hsound rules' hempty, Store.kept, Table.get?_filter]
    rfl
  · rw [hpeers, ht, hout, Store.load_fst, Store.peopled_snapshot hsound,
      Store.sum_ids_snapshot hsound, Store.load_snapshot_hashes hsound rules' hempty]
  · intro hfast
    -- the formats bound the peers of the snapshot, and so the records while it is loaded
    have hheld : ∀ x ∈ trail rules' start ((Store.snapshot s).map .entry),
        x.2.held x.1 < 2 ^ 32 := by
      intro x hx
      have hle := Store.held_le_of_entries rules' start (Store.snapshot s) x hx
      have hpack := sum_peers_le_pack (Store.snapshot s)
      have hlength := faithful_iff.mp hfaithful
      have hnone : start.records.length = 0 := rfl
      omega
    have hrun := holds_on_trail (State.Balanced.exec hfast) _ start
      ⟨State.sound_fresh limit random, State.balanced_fresh limit random⟩ hheld
    rw [ht, Store.load_snd]
    exact hrun.2.2
  · intro hfast
    rw [ht]
    exact Store.load_stats_of_fast rules' hfast start (Store.snapshot s)

/-- Two peers at one swarm, the first at an IPv6 address; it leaves, and stays a provider.
Another swarm loses its only peer. -/
def sampleComings : List Operation :=
  [.command (.save .zero .zero
      ⟨.v6 ⟨0x2001, 0xDB8, 0, 0, 0, 0, 0, 1⟩, 6881, true, 10, 20, 1, true⟩),
    .command (.save .zero otherId (sampleReport false 2)), .command (.drop .zero .zero false),
    .command (.save otherId .zero (sampleReport true 3)), .command (.drop otherId .zero true)]

theorem snapshot_round_trip_sample_comings :
    let s := sampleComings.foldl (Operation.exec ⟨2, false⟩) (.fresh 50 (.ofList []))
    let out := Store.restore ⟨2, false⟩ (.fresh 50 (.ofList [])) (encode (Store.snapshot s))
    Faithful (Store.snapshot s) ∧ s.hashes = 2 ∧ out.1 = .ok (1, 1) ∧
      (out.2.swarm? .zero).isSome = true ∧ out.2.Balanced := by
  intro s out
  have harises : s.Arises ⟨2, false⟩ State.Any :=
    State.Arises.operate sampleComings (.fresh 50 (.ofList []))
  have hfaithful : Faithful (Store.snapshot s) := faithful_iff.mpr (by decide +kernel)
  obtain ⟨hswarms, -, -, hbalanced, -⟩ :=
    snapshot_round_trip ⟨2, false⟩ ⟨2, false⟩ harises hfaithful 50 (.ofList [])
  have hpeopled : (((s.swarm? .zero).filter fun w => !w.peers.isEmpty).map Swarm.forget).isSome =
      true := by decide +kernel
  refine ⟨hfaithful, by decide +kernel, by decide +kernel, ?_, hbalanced rfl⟩
  rw [hswarms]
  exact hpeopled

/-- Where the bookkeeping is left out, a complete peer comes back and is not counted. -/
theorem restored_without_bookkeeping :
    let rules : StoreRules := ⟨2, true⟩
    let s := (Command.save .zero .zero (sampleReport true 1)).exec rules (.fresh 50 (.ofList []))
    let out := Store.restore rules (.fresh 50 (.ofList [])) (encode (Store.snapshot s))
    (pack (Store.snapshot s)).length < 2 ^ 32 ∧ out.1 = .ok (1, 1) ∧
      out.2.records.countP (fun p => p.complete) = 1 ∧ out.2.stats.seeds = 0 ∧
      out.2.stats.uniqueIps = 0 := by
  decide +kernel

end PeerTracker
