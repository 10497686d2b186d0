import PeerTracker.Proofs.Arising

/-!
# Loading a snapshot

A snapshot comes from outside and may hold anything: hashes twice, peers twice, entries
without peers, providers that are no peers. Whatever it holds, loading it is the same as
writing the swarm of each entry with peers over what is there (`Store.swarm?_load`), so
that under each hash the last such entry counts, and nothing of what it replaces is left.
-/

namespace PeerTracker

open Snapshot

/-- The swarm has what an entry says and nothing else: of peer records with one id the
first, of provider records with one id the last. -/
structure Swarm.RebuiltFrom (r : SwarmRecord) (w : Swarm) : Prop where
  peers : ∀ id, w.peers.get? id = (r.peers.find? fun p => p.id = id).map (·.toPeer)
  providers : ∀ id, w.providers.get? id =
    (r.providers.reverse.find? fun p => p.id = id).map (·.toPeer)
  counted : w.Counted
  live : w.retired = false

theorem Swarm.rebuiltFrom_ofRecord (r : SwarmRecord) : (ofRecord r).RebuiltFrom r where
  peers := get?_ofRecord_peers r
  providers := get?_ofRecord_providers r
  counted := counted_ofRecord r
  live := ofRecord_retired r

/-- The different peers that an entry names. -/
def Snapshot.SwarmRecord.ids (r : SwarmRecord) : Finset PeerId := (r.peers.map (·.id)).toFinset

namespace Swarm

theorem ofRecord_peers_isEmpty (r : SwarmRecord) :
    (ofRecord r).peers.isEmpty = true ↔ r.peers = [] := by
  constructor
  · intro hempty
    apply List.eq_nil_iff_forall_not_mem.mpr
    intro p hp
    have hnone := Table.get?_eq_none_of_isEmpty hempty p.id
    rw [get?_ofRecord_peers, Option.map_eq_none_iff, List.find?_eq_none] at hnone
    exact hnone p hp (decide_eq_true rfl)
  · intro hnil
    rw [ofRecord_peers, hnil]
    rfl

theorem ofRecord_peers_size (r : SwarmRecord) : (ofRecord r).peers.size = r.ids.card := by
  have hkeys : (ofRecord r).peers.keys.toFinset = r.ids := by
    ext id
    rw [List.mem_toFinset, Table.mem_keys, SwarmRecord.ids, List.mem_toFinset, List.mem_map]
    simp only [get?_ofRecord_peers, Option.map_eq_some_iff]
    constructor
    · rintro ⟨_, p, hp, -⟩
      exact ⟨p, List.mem_of_find?_eq_some hp, by simpa using List.find?_some hp⟩
    · rintro ⟨p, hp, hid⟩
      have hsome : (r.peers.find? fun p => p.id = id).isSome :=
        List.find?_isSome.mpr ⟨p, hp, decide_eq_true hid⟩
      obtain ⟨q, hq⟩ := Option.isSome_iff_exists.mp hsome
      exact ⟨q.toPeer, q, hq, rfl⟩
  have hnodup : (ofRecord r).peers.keys.Nodup := (ofRecord r).peers.nodup
  rw [← hkeys, List.toFinset_card_of_nodup hnodup]
  simp [Table.size, Table.keys]

end Swarm

namespace Store

/-- The entries that have peers. -/
def peopled (records : List SwarmRecord) : List SwarmRecord := records.filter fun r => r.peers ≠ []

/-- The last entry for a hash that has peers. -/
def lastEntry (records : List SwarmRecord) (hash : InfoHash) : Option SwarmRecord :=
  ((peopled records).filter fun r => r.hash = hash).getLast?

theorem peopled_snoc (records : List SwarmRecord) (r : SwarmRecord) :
    peopled (records ++ [r]) = peopled records ++ if r.peers = [] then [] else [r] := by
  by_cases h : r.peers = [] <;> simp [peopled, h]

theorem lastEntry_snoc (records : List SwarmRecord) (r : SwarmRecord) (hash : InfoHash) :
    lastEntry (records ++ [r]) hash =
      if r.peers ≠ [] ∧ hash = r.hash then some r else lastEntry records hash := by
  rw [lastEntry, peopled_snoc, List.filter_append]
  by_cases hpeers : r.peers = []
  · simp [hpeers, lastEntry]
  · by_cases hhash : hash = r.hash
    · simp [hpeers, hhash]
    · have hhash' : ¬r.hash = hash := fun e => hhash e.symm
      simp [hpeers, hhash, hhash', lastEntry]

variable (rules : StoreRules)

theorem load_snoc (s : State) (records : List SwarmRecord) (r : SwarmRecord) :
    load rules s (records ++ [r]) = loadEntry rules.fast (load rules s records) r :=
  List.foldl_append

/-- What is under a hash after loading: the swarm of the last entry for it with peers, or
what was there before. -/
theorem swarm?_load (s : State) (records : List SwarmRecord) (hash : InfoHash) :
    (load rules s records).2.swarm? hash =
      match lastEntry records hash with
      | none => s.swarm? hash
      | some r => some (Swarm.ofRecord r) := by
  induction records using List.reverseRecOn with
  | nil => rfl
  | append_singleton records r ih =>
      rw [load_snoc, State.swarm?, loadEntry_swarms, lastEntry_snoc]
      by_cases hpeers : r.peers = []
      · rw [if_pos ((Swarm.ofRecord_peers_isEmpty r).mpr hpeers), if_neg (fun h => h.1 hpeers)]
        exact ih
      · rw [if_neg (fun h => hpeers ((Swarm.ofRecord_peers_isEmpty r).mp h)), Table.get?_insert]
        by_cases hhash : hash = r.hash
        · rw [if_pos hhash, if_pos ⟨hpeers, hhash⟩]
        · rw [if_neg hhash, if_neg (fun h => hhash h.2)]
          exact ih

/-- An entry with peers counts with as many peers as it names. -/
theorem loadEntry_fst (fast : Bool) (acc : (Nat × Nat) × State) (r : SwarmRecord) :
    (loadEntry fast acc r).1 =
      if r.peers = [] then acc.1 else (acc.1.1 + r.ids.card, acc.1.2 + 1) := by
  have hpeers := (foldl_loadPeer fast r.peers (∅, acc.2)).1
  have hproviders :=
    (foldl_loadProvider r.providers (r.peers.foldl (loadPeer fast) (∅, acc.2))).1
  rw [hpeers] at hproviders
  have hiff := Swarm.ofRecord_peers_isEmpty r
  rw [Swarm.ofRecord_peers, ← hpeers] at hiff
  obtain ⟨⟨n, m⟩, s⟩ := acc
  by_cases h : r.peers = []
  · simp only [loadEntry, if_pos h, if_pos (hiff.mpr h)]
  · have hsize := Swarm.ofRecord_peers_size r
    rw [Swarm.ofRecord, ← hproviders] at hsize
    simp only [loadEntry, if_neg h, if_neg (fun e => h (hiff.mp e)), hsize]

theorem load_fst (s : State) (records : List SwarmRecord) :
    (load rules s records).1 =
      (((peopled records).map fun r => r.ids.card).sum, (peopled records).length) := by
  induction records using List.reverseRecOn with
  | nil => rfl
  | append_singleton records r ih =>
      rw [load_snoc, loadEntry_fst, ih, peopled_snoc]
      by_cases h : r.peers = []
      · simp [h]
      · simp [h]

theorem card_crowd_erase_le (t : Table InfoHash Swarm) (hash : InfoHash) :
    (crowd (t.erase hash)).card ≤ (crowd t).card := by
  cases h : t.get? hash with
  | none => rw [Table.erase_eq_self h]
  | some w =>
      rw [crowd_eq_add h, Multiset.card_add]
      exact Nat.le_add_left _ _

/-- While entries are loaded there are at most the records that the store had and those of
the entries. -/
theorem held_le_of_entries (s : State) (records : List SwarmRecord) :
    ∀ x ∈ trail rules s (records.map .entry),
      x.2.held x.1 ≤ s.records.length + (records.map fun r => r.peers.length).sum := by
  induction records generalizing s with
  | nil => exact fun _ hx => absurd hx List.not_mem_nil
  | cons r records ih =>
      have hsize : (Swarm.ofRecord r).peers.size ≤ r.peers.length := by
        have hcard := List.toFinset_card_le (r.peers.map (·.id))
        rwa [List.length_map, ← SwarmRecord.ids, ← Swarm.ofRecord_peers_size] at hcard
      have hloaded : ((Action.entry r).exec rules s).records.length ≤
          s.records.length + r.peers.length := by
        rw [← State.card_crowd, ← State.card_crowd, Action.exec, loadEntry_swarms]
        split
        · exact Nat.le_add_right _ _
        · have herase := card_crowd_erase_le s.swarms r.hash
          rw [crowd_insert, Multiset.card_add, Table.card_bag]
          show _ + (crowd (s.swarms.erase r.hash)).card ≤ _
          omega
      intro x hx
      rw [List.map_cons, List.sum_cons]
      rcases List.mem_cons.mp hx with rfl | hx
      · show (Swarm.ofRecord r).peers.size + s.records.length ≤ _
        omega
      · have hrest := ih _ x hx
        omega

/-- Without the bookkeeping nothing is counted. -/
theorem load_stats_of_fast (hfast : rules.fast = true) (s : State) (records : List SwarmRecord) :
    (load rules s records).2.stats = s.stats := by
  have hrelease : ∀ (ps : List Peer) (s : State), (ps.foldl (State.release true) s).stats = s.stats :=
    fun ps s => List.foldlRecOn (motive := fun t : State => t.stats = s.stats) ps _ rfl
      fun t ht _ _ => ht
  have hpeers : ∀ (r : SwarmRecord) (s : State),
      (r.peers.foldl (loadPeer true) (∅, s)).2.stats = s.stats := by
    intro r s
    refine List.foldlRecOn (motive := fun acc : Swarm × State => acc.2.stats = s.stats) r.peers _
      rfl ?_
    intro acc hacc p _
    obtain ⟨w, t⟩ := acc
    simp only [loadPeer]
    split
    · exact hacc
    · exact hacc
  rw [load, hfast]
  refine List.foldlRecOn (motive := fun acc : (Nat × Nat) × State => acc.2.stats = s.stats)
    records _ rfl ?_
  intro acc hacc r _
  rw [loadEntry_snd]
  split
  · exact (hpeers r acc.2).trans hacc
  · have hassembled : (assembled true acc.2 r).stats = s.stats :=
      (assembled_stats true acc.2 r).trans ((hpeers r acc.2).trans hacc)
    unfold replace
    split
    · exact hassembled
    · next old _ =>
      obtain ⟨gone, -, hstats⟩ := retire_stats true ((assembled true acc.2 r).setSwarm r.hash
        (Swarm.ofRecord r)) old
      rw [hstats, hrelease]
      exact hassembled

theorem load_snd (s : State) (records : List SwarmRecord) :
    (load rules s records).2 = (records.map Action.entry).foldl (Action.exec rules) s :=
  Operation.foldl_loadEntry_snd rules records ((0, 0), s)

end Store

/-- **A snapshot replaces the swarms it names, and only these.** If it cannot be read,
nothing changes at all. Otherwise each hash that has an entry with peers has the swarm of
the last such entry, and every other hash what it had before. Where the bookkeeping is kept,
and however the store has come about, nothing of a replaced swarm is left in the totals:
complete and incomplete peers are a recount, and an address has no count but of records
that are in the store then. If there were fewer than `2 ^ 32` records at any time, also
while the entries are loaded, so that no count has wrapped, these are a recount too. The
numbers returned are of the different peers in each entry, summed up, and of the entries
with peers. -/
theorem restore_replaces_named_swarms (rules : StoreRules) (s : State) (bs : Bytes) :
    let s' := (Store.restore rules s bs).2
    (∀ e, (Store.restore rules s bs).1 = .error e → s' = s) ∧
    ∀ pair, (Store.restore rules s bs).1 = .ok pair → ∃ records,
      Snapshot.decode bs = .ok records ∧
      (∀ hash r, Store.lastEntry records hash = some r →
        ∃ w, s'.swarm? hash = some w ∧ w.RebuiltFrom r) ∧
      (∀ hash, Store.lastEntry records hash = none → s'.swarm? hash = s.swarm? hash) ∧
      (rules.fast = false → s.Arises rules State.Any →
        (∀ c, s'.stats.read (Stats.kind c) =
          Int64.ofNat (s'.records.countP fun p => p.complete = c)) ∧
        ∀ ip n, s'.stats.addresses.get? ip = some n →
          ip ∈ s'.records.map Peer.ip ∧ n.toNat ≤ (s'.records.map Peer.ip).count ip) ∧
      (rules.fast = false → s.Arises rules State.Narrow →
        (∀ x ∈ trail rules s (records.map .entry), x.2.held x.1 < 2 ^ 32) → s'.Balanced) ∧
      pair = (((Store.peopled records).map fun r => r.ids.card).sum,
        (Store.peopled records).length) := by
  intro s'
  cases hdecode : Snapshot.decode bs with
  | error e =>
      have hrestore : Store.restore rules s bs = (.error e, s) := by
        simp only [Store.restore, hdecode]
      refine ⟨fun _ _ => congrArg Prod.snd hrestore, ?_⟩
      intro pair hok
      rw [hrestore] at hok
      cases hok
  | ok records =>
      have hrestore : Store.restore rules s bs =
          (.ok (Store.load rules s records).1, (Store.load rules s records).2) := by
        simp only [Store.restore, hdecode]
      have hs' : s' = (Store.load rules s records).2 := congrArg Prod.snd hrestore
      rw [hrestore, hs']
      refine ⟨fun e he => (by cases he), ?_⟩
      rintro pair hok
      cases hok
      refine ⟨records, rfl, ?_, ?_, ?_, ?_, Store.load_fst rules s records⟩
      · intro hash r hr
        refine ⟨Swarm.ofRecord r, ?_, Swarm.rebuiltFrom_ofRecord r⟩
        rw [Store.swarm?_load, hr]
      · intro hash hnone
        rw [Store.swarm?_load, hnone]
      · intro hfast hs
        rw [Store.load_snd]
        have hrun := hs.run (records.map .entry) fun _ _ => trivial
        have honly := (hrun.countsOnlyRecords hfast).2
        exact ⟨honly.kinds_records, fun ip n => honly.address_records⟩
      · intro hfast hs hheld
        rw [Store.load_snd]
        exact ((hs.run _ hheld).balanced hfast).2

/-- The last of these entries for its hash has no peers, and the one before names a peer
twice. -/
def sampleListing : List SwarmRecord :=
  [⟨.zero, [⟨otherId, .unspecified, 1, true, 9, 0, 0⟩], []⟩, sampleEntry, ⟨.zero, [], []⟩]

theorem restore_replaces_named_swarms_sample :
    let rules : StoreRules := ⟨2, false⟩
    let s := (sampleRun.take 4).foldl (Operation.exec rules) (.fresh 50 (.ofList []))
    let s' := (Store.restore rules s (encode sampleListing)).2
    (Store.restore rules s (encode sampleListing)).1 = .ok (3, 2) ∧
      (∃ w, s'.swarm? .zero = some w ∧ w.RebuiltFrom sampleEntry) ∧ s'.Balanced := by
  intro rules s s'
  have hpair : (Store.restore rules s (encode sampleListing)).1 = .ok (3, 2) := by decide +kernel
  have hdecode : decode (encode sampleListing) = .ok sampleListing := by decide +kernel
  have harises : s.Arises rules State.Narrow := by
    have hsplit : s = ((sampleRun.take 4).flatMap Operation.actions).foldl (Action.exec rules)
        (.fresh 50 (.ofList [])) := Operation.foldl_exec_eq _ _ _
    rw [hsplit]
    refine State.Arises.run _ (.fresh 50 (.ofList [])) ?_
    unfold State.Narrow
    decide +kernel
  have hheld : ∀ x ∈ trail rules s (sampleListing.map .entry), x.2.held x.1 < 2 ^ 32 := by
    decide +kernel
  obtain ⟨records, hrecords, hnamed, -, -, htotals, -⟩ :=
    (restore_replaces_named_swarms rules s (encode sampleListing)).2 _ hpair
  rw [hdecode] at hrecords
  cases hrecords
  exact ⟨hpair, hnamed .zero sampleEntry (by decide), htotals rfl harises hheld⟩

end PeerTracker
