import PeerTracker.Proofs.Checks
import PeerTracker.Proofs.Demands

/-!
# Replies to peers that join

With settings that pass their check, a peer that joins is told of as many peers as it
may have, whatever the tracker did before: nobody wants more than the limit, and the
buffers that a list is written into have room for that many peers of either family.
-/

namespace PeerTracker

/-! ## The swarm of a peer that joins -/

namespace Swarm

theorem tally_true (w : Swarm) : w.tally true = w.peers.values.countP fun p => p.complete := by
  simp [tally, Table.bag, Multiset.coe_countP]

theorem tally_false (w : Swarm) : w.tally false = w.peers.values.countP fun p => !p.complete := by
  simp [tally, Table.bag, Multiset.coe_countP]

end Swarm

theorem Table.size_pos_of_get? {K V : Type} [DecidableEq K] {t : Table K V} {k : K}
    (h : (t.get? k).isSome) : 1 ≤ t.size := by
  obtain ⟨v, hv⟩ := Option.isSome_iff_exists.mp h
  exact List.length_pos_of_mem ((get?_eq_some_iff t k v).mp hv)

namespace Announce

section Enroll

variable (r : Rules) {s : State} (hash : InfoHash) (id : PeerId) (u : Update)

theorem sound_enroll (h : s.Sound) : (enroll r s hash id u).2.Sound :=
  (steady_enroll r s hash id u).sound (Store.sound_save r.store h hash id u)

theorem restored_enroll {limit : Nat} (h : s.pools.Restored limit) :
    (enroll r s hash id u).2.pools.Restored limit :=
  (steady_enroll r s hash id u).restored limit
    (Store.pools_save (Pools.peerStable_restored limit) r.store h hash id u)

/-- Enrolling leaves a swarm with the peer in it. -/
theorem swarm?_enroll (s : State) :
    ∃ w, (enroll r s hash id u).2.swarm? hash = some w ∧ (w.peers.get? id).isSome := by
  obtain ⟨t, ht⟩ := Store.save_swarms r.store s hash id u
  have hsaved := (congrArg (fun swarms => swarms.get? hash) ht).trans
    (Table.get?_insert_self _ _ _)
  refine ⟨_, ((steady_enroll r s hash id u).swarm?_eq hash).trans hsaved, ?_⟩
  show ((Store.savePeer _ id _ u).peers.get? id).isSome
  rw [Swarm.savePeer_peers, Table.get?_insert_self]
  rfl

end Enroll

/-! ## What a reply shows -/

theorem answer_shows (r : Rules) (q : Announcement) {hash : InfoHash} (u : Update) (wanted : Nat)
    (badActor : Bool) {s : State} {limit : Nat} (hrestored : s.pools.Restored limit) {w : Swarm}
    (hw : s.swarm? hash = some w) :
    let reply := (answer r q hash u wanted badActor s).1
    reply.peers.isCompact = q.compact ∧
      (∃ es, es.Sublist w.peers.entries ∧ reply.peers.Shows (!q.noPeerId) es) ∧
      ∀ hint, reply.hint = some hint →
        ∃ e ∈ w.providers.entries, hint.Shows (!q.noPeerId) e := by
  intro reply
  obtain ⟨hform, m, -, hshows, -⟩ := listing_spec q s hash wanted
  rw [Store.listed_eq hw] at hshows
  refine ⟨hform, ⟨w.peers.entries.take m, List.take_sublist _ _, hshows⟩, ?_⟩
  intro hint hhint
  -- the hint is picked after the list has been written
  have hlisting := steady_listing q hash wanted s
  obtain ⟨w', hw', e, he, hshows⟩ :=
    hint_spec q _ hash (hlisting.restored limit hrestored) u hhint
  rw [hlisting.swarm?_eq, hw] at hw'
  cases hw'
  exact ⟨e, he, hshows⟩

end Announce

/-- A reply shows peers of the swarm that the announce leaves, and one of its providers, in
the form that was asked for. -/
theorem announce_shows {r : Rules} {q : Announcement} {now : Int64} {s s' : State}
    {reply : AnnounceResult} (h : announce r q now s = (.ok (.announced reply), s'))
    {limit : Nat} (hrestored : s.pools.Restored limit) {hash : InfoHash}
    (hhash : q.infoHash = hash.bytes) :
    reply.peers.isCompact = q.compact ∧
      ∃ w, s'.swarm? hash = some w ∧
        (∃ es, es.Sublist w.peers.entries ∧ reply.peers.Shows (!q.noPeerId) es) ∧
        ∀ hint, reply.hint = some hint →
          ∃ e ∈ w.providers.entries, hint.Shows (!q.noPeerId) e := by
  obtain ⟨hash', id, u, wanted, hintent⟩ := intent_of_announced (congrArg Prod.fst h)
  have hsame : hash' = hash :=
    Identifier.bytes_inj ((Announce.intent_eq_join_iff.mp hintent).1.symm.trans hhash)
  subst hsame
  rw [announce_of_join hintent, Prod.mk.injEq] at h
  obtain ⟨hreply, rfl⟩ := h
  cases hreply
  obtain ⟨w, hw, -⟩ := Announce.swarm?_enroll r hash' id u (s.count .announces 1)
  have hrestored' : (s.count .announces 1).pools.Restored limit := hrestored
  obtain ⟨hform, hpeers, hhint⟩ := Announce.answer_shows r q u wanted
    (Announce.enroll r (s.count .announces 1) hash' id u).1
    (Announce.restored_enroll r hash' id u hrestored') hw
  refine ⟨hform, w, ?_, hpeers, hhint⟩
  have hanswer := Announce.steady_answer r q hash' u wanted
    (Announce.enroll r (s.count .announces 1) hash' id u).1
    (Announce.enroll r (s.count .announces 1) hash' id u).2
  rw [hanswer.swarm?_eq, hw]

/-! ## A full reply -/

/-- The reply tells a peer of its swarm: how many of the peers are complete and how many
are not, and of different ones among them as many as are wanted, or all, in the form
that was asked for. -/
structure AnnounceResult.Full (q : Announcement) (w : Swarm) (id : PeerId) (wanted : Nat)
    (reply : AnnounceResult) : Prop where
  joined : (w.peers.get? id).isSome
  nonempty : 1 ≤ w.peers.size
  complete : reply.complete = UInt32.ofNat (w.peers.values.countP fun p => p.complete)
  incomplete : reply.incomplete = UInt32.ofNat (w.peers.values.countP fun p => !p.complete)
  exact : w.peers.size < 2 ^ 32 →
    reply.complete.toNat = (w.peers.values.countP fun p => p.complete) ∧
      reply.incomplete.toNat = (w.peers.values.countP fun p => !p.complete) ∧
      reply.complete.toNat + reply.incomplete.toNat = w.peers.size
  form : reply.peers.isCompact = q.compact
  peers : ∃ es, es.Sublist w.peers.entries ∧ (es.map Prod.fst).Nodup ∧
    es.length = min wanted w.peers.size ∧ reply.peers.count = es.length ∧
    reply.peers.Shows (!q.noPeerId) es

/-- What is gathered from a sound store with pooled buffers is a full reply. -/
theorem Announce.full_answer {r : Rules} {q : Announcement} {hash : InfoHash} {id : PeerId}
    {u : Update} {wanted : Nat} {badActor : Bool} {s : State} {w : Swarm} {limit : Nat}
    (hsound : s.Sound) (hrestored : s.pools.Restored limit) (hwanted : wanted ≤ limit)
    (hw : s.swarm? hash = some w) (hid : (w.peers.get? id).isSome) :
    (answer r q hash u wanted badActor s).1.Full q w id wanted := by
  have hcounted := (hsound hash w hw).counted
  have hcounts := answer_counts r q hash u wanted badActor s
  rw [Store.hashStats, hw, Prod.mk.injEq] at hcounts
  obtain ⟨hcomplete, hincomplete⟩ := hcounts
  obtain ⟨hform, m, -, hshows, hm⟩ := listing_spec q s hash wanted
  rw [Store.listed_eq hw] at hshows hm
  have hlength : (w.peers.entries.take m).length = min wanted w.peers.size := by
    rw [List.length_take, hm limit hrestored hwanted]
    exact Nat.min_eq_left (Nat.min_le_right _ _)
  have hsublist := List.take_sublist m w.peers.entries
  refine ⟨hid, Table.size_pos_of_get? hid, ?_, ?_, ?_, hform, w.peers.entries.take m, hsublist,
    w.peers.nodup.sublist (hsublist.map Prod.fst), hlength, hshows.count_eq, hshows⟩
  · rw [hcomplete, ← w.tally_true]
    exact hcounted true
  · rw [hincomplete, ← w.tally_false]
    exact hcounted false
  · intro hsize
    have hseeds : w.complete.toNat = w.tally true := hcounted.toNat_counter hsize true
    have hleeches : w.incomplete.toNat = w.tally false := hcounted.toNat_counter hsize false
    rw [hcomplete, hincomplete, hseeds, hleeches, ← w.tally_true, ← w.tally_false]
    exact ⟨rfl, rfl, w.tally_add_tally⟩

/-- **A peer that joins gets a full reply.** With settings that pass their check, and in
whatever state demands of any kind have led the tracker to: when an announce is answered,
its hash, its peer id and the number of wanted peers were understood, the latter at most
the limit, and the reply is gathered after the peer was saved. In whatever orders the
tables are found at that moment, the reply counts the peers of the swarm, of which there
is one at least, and lists as many different ones as are wanted, or all. -/
theorem joined_peer_is_answered_in_full (settings : Settings) (hcheck : settings.check = .ok ())
    (secret : Bytes) (random : RandomSource) {s : State}
    (hs : Reachable (.ofSettings settings secret) (.ofSettings settings random) s)
    (q : Announcement) (now : Int64) {reply : AnnounceResult} {s' : State}
    (h : announce (.ofSettings settings secret) q now s = (.ok (.announced reply), s')) :
    let rules := Rules.ofSettings settings secret
    ∃ hash id u wanted, q.infoHash = hash.bytes ∧ q.peerId = id.bytes ∧
      Announce.resolveWanted rules q.wanted = .ok wanted ∧
      wanted ≤ settings.tracker.numwantLimit.toNat ∧
      let enrolled := Announce.enroll rules (s.count .announces 1) hash id u
      Announce.answer rules q hash u wanted enrolled.1 enrolled.2 = (reply, s') ∧
        ∀ t, enrolled.2.Reordered t →
          ∃ w, t.swarm? hash = some w ∧
            (Announce.answer rules q hash u wanted enrolled.1 t).1.Full q w id wanted := by
  intro rules
  obtain ⟨hash, id, u, wanted, hintent⟩ := intent_of_announced (congrArg Prod.fst h)
  obtain ⟨hhash, hid, -, -, -, hwanted, -⟩ := Announce.intent_eq_join_iff.mp hintent
  have hlimit : wanted ≤ settings.tracker.numwantLimit.toNat := by
    refine Announce.resolveWanted_le ?_ hwanted
    exact UInt32.le_iff_toNat_le.mp (Settings.default_le_limit hcheck)
  rw [announce_of_join hintent, Prod.mk.injEq] at h
  obtain ⟨hreply, hs'⟩ := h
  cases hreply
  refine ⟨hash, id, u, wanted, hhash, hid, hwanted, hlimit, Prod.ext rfl hs', ?_⟩
  have hsound : (s.count .announces 1).Sound := hs.sound (State.sound_fresh _ random)
  have hrestored : (s.count .announces 1).pools.Restored settings.tracker.numwantLimit.toNat :=
    hs.restored (Pools.restored_fresh _)
  have hsoundEnrolled := Announce.sound_enroll rules hash id u hsound
  have hrestoredEnrolled := Announce.restored_enroll rules hash id u hrestored
  obtain ⟨w, hw, hmem⟩ := Announce.swarm?_enroll rules hash id u (s.count .announces 1)
  intro t ht
  obtain ⟨v, hv, hreordered⟩ := ht.of_swarm? hw
  have hmemReordered : (v.peers.get? id).isSome := by
    rw [Table.get?_of_perm hreordered.peers]
    exact hmem
  exact ⟨v, hv, Announce.full_answer (ht.sound hsoundEnrolled) (ht.pools ▸ hrestoredEnrolled)
    hlimit hv hmemReordered⟩

/-- The second peer of a swarm is told of both, and fifty would have been listed. -/
theorem joined_peer_is_answered_in_full_second :
    let rules := Rules.ofSettings {} []
    let start := State.ofSettings {} (.ofList [])
    let s := (Demand.announce (sampleAnnouncement otherId) 1 true).exec rules start
    Settings.check {} = .ok () ∧ Reachable rules start s ∧
      ∃ reply s' w, announce rules (sampleAnnouncement .zero) 2 s = (.ok (.announced reply), s') ∧
        s'.swarm? .zero = some w ∧ w.peers.size = 2 ∧
        ∃ id, reply.Full (sampleAnnouncement .zero) w id 50 := by
  intro rules start s
  have hcheck : Settings.check {} = .ok () := by decide +kernel
  have hs : Reachable rules start s := .serve _ .refl trivial
  have hintent : Announce.intent rules (sampleAnnouncement .zero) 2 = .ok
      (.join .zero .zero (Announce.update (sampleAnnouncement .zero) (.v4 ⟨10, 0, 0, 1⟩) 6881
        (rules.isProvider (.v4 ⟨10, 0, 0, 1⟩) 6881) 2) 50) :=
    Announce.intent_eq_join_iff.mpr ⟨rfl, rfl, by decide, 6881, by decide, rfl, rfl⟩
  obtain ⟨reply, s', h⟩ : ∃ reply s', announce rules (sampleAnnouncement .zero) 2 s =
      (.ok (.announced reply), s') := ⟨_, _, announce_of_join hintent⟩
  obtain ⟨hash, id, u, wanted, hhash, -, hwanted, -, hanswer, hfull⟩ :=
    joined_peer_is_answered_in_full {} hcheck [] (.ofList []) hs (sampleAnnouncement .zero) 2 h
  have hhashZero : hash = .zero := (Identifier.bytes_inj hhash).symm
  have hwantedDefault : wanted = 50 := (Except.ok.inj hwanted).symm
  subst hhashZero hwantedDefault
  obtain ⟨w, hw, hreply⟩ := hfull _ (.refl _)
  rw [hanswer] at hreply
  have hsteady := Announce.steady_answer rules (sampleAnnouncement .zero) .zero u 50
    (Announce.enroll rules (s.count .announces 1) .zero id u).1
    (Announce.enroll rules (s.count .announces 1) .zero id u).2
  rw [hanswer] at hsteady
  rw [← hsteady.swarm?_eq] at hw
  have hsize : ∀ w, (announce rules (sampleAnnouncement .zero) 2 s).2.swarm? .zero = some w →
      w.peers.size = 2 := by decide +kernel
  have hafter : (announce rules (sampleAnnouncement .zero) 2 s).2.swarm? .zero = some w := by
    rw [h]
    exact hw
  exact ⟨hcheck, hs, reply, s', w, h, hw, hsize w hafter, id, hreply⟩

end PeerTracker
