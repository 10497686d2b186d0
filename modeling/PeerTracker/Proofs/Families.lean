import PeerTracker.Proofs.ConnectionIds
import PeerTracker.Proofs.Datagrams
import PeerTracker.Proofs.RequestCodec

/-!
# Peers of one family

A list is the front of the whole table of a swarm, and a reply by datagram keeps the part of
one family. So peers of the other family take places among those that are wanted, and how
many are listed depends on the order in which the table is found. What can be said without
the order are two bounds (`length_filter_take_le`, `min_le_length_filter_take`), and they
are the best: each number between them is that of some order
(`exists_perm_length_filter_take`).
-/

namespace PeerTracker

/-! ## Some kind of elements at the front of a list -/

section Fronts

variable {α : Type} (p : α → Bool) (n : Nat) (l : List α)

theorem length_filter_take_le : ((l.take n).filter p).length ≤ min n (l.filter p).length := by
  have hkept := List.length_filter_le p (l.take n)
  have hall := ((List.take_sublist n l).filter p).length_le
  rw [List.length_take] at hkept
  omega

/-- At most the elements of the other kind are in the way. -/
theorem min_le_length_filter_take :
    min n l.length ≤ ((l.take n).filter p).length + (l.length - (l.filter p).length) := by
  have hfront := List.length_eq_countP_add_countP p (l := l.take n)
  have hall := List.length_eq_countP_add_countP p (l := l)
  have hothers := (List.take_sublist n l).countP_le (p := fun a => ¬p a)
  rw [List.length_take] at hfront
  rw [← List.countP_eq_length_filter, ← List.countP_eq_length_filter]
  omega

/-- So many of the kind come first, then all of the other kind. -/
theorem exists_perm_length_filter_take {k : Nat} (hle : k ≤ min n (l.filter p).length)
    (hge : min n l.length ≤ k + (l.length - (l.filter p).length)) :
    ∃ l' : List α, l'.Perm l ∧ ((l'.take n).filter p).length = k := by
  let others := l.filter fun a => !p a
  have hlength : l.length = (l.filter p).length + others.length := by
    rw [← (List.filter_append_perm p l).length_eq, List.length_append]
  refine ⟨(l.filter p).take k ++ (others ++ (l.filter p).drop k), ?_, ?_⟩
  · have hswap : (others ++ (l.filter p).drop k).Perm ((l.filter p).drop k ++ others) :=
      List.perm_append_comm
    refine (hswap.append_left _).trans ?_
    rw [← List.append_assoc, List.take_append_drop]
    exact List.filter_append_perm p l
  · have hfirst : ((l.filter p).take k).length = k := List.length_take_of_le (by omega)
    have hkind : ((l.filter p).take k).filter p = (l.filter p).take k :=
      List.filter_eq_self.mpr fun a ha => (List.mem_filter.mp (List.mem_of_mem_take ha)).2
    have hothers : ∀ m, (others.take m).filter p = [] := by
      intro m
      refine List.filter_eq_nil_iff.mpr fun a ha => ?_
      simpa using (List.mem_filter.mp (List.mem_of_mem_take ha)).2
    -- nothing is left behind the others, or they have taken all other places
    have hrest : ((l.filter p).drop k).take (n - k - others.length) = [] := by
      rw [List.take_eq_nil_iff, List.drop_eq_nil_iff]
      omega
    rw [List.take_append, List.take_append, hfirst, List.take_of_length_le (by omega), hrest,
      List.append_nil, List.filter_append, hkind, hothers, List.append_nil, hfirst]

end Fronts

/-! ## Other orders of one swarm -/

/-- Any order of the peers of a swarm is one in which it may be found. -/
theorem State.exists_reordered {s : State} {hash : InfoHash} {w : Swarm}
    (hw : s.swarm? hash = some w) {es : List (PeerId × Peer)} (hes : es.Perm w.peers.entries) :
    ∃ t v, s.Reordered t ∧ t.swarm? hash = some v ∧ v.peers.entries = es := by
  let v : Swarm := { w with peers := ⟨es, (hes.map Prod.fst).nodup_iff.mpr w.peers.nodup⟩ }
  let t : State := { s with swarms := s.swarms.insert hash v }
  have hv : t.swarm? hash = some v := Table.get?_insert_self _ _ _
  refine ⟨t, v, ⟨fun other => ?_, rfl, rfl, rfl⟩, hv, rfl⟩
  by_cases h : other = hash
  · rw [h, hw, hv]
    exact .some ⟨hes.symm, .refl _, rfl, rfl, rfl⟩
  · have hsame : t.swarm? other = s.swarm? other := Table.get?_insert_of_ne _ _ h
    rw [hsame]
    exact (State.Reordered.refl s).swarms other

namespace Udp

/-! ## What a reply lists -/

/-- The records of one family. -/
def ofFamily (v4 : Bool) (es : List (PeerId × Peer)) : List (PeerId × Peer) :=
  es.filter fun e => e.2.ip.isV4 == v4

namespace AnnounceReply

/-- The number of peers that a reader of this family finds. -/
def count (v4 : Bool) (a : AnnounceReply) : Nat := a.peers.length / Peer.width v4

theorem count_eq_length {v4 : Bool} {es : List (PeerId × Peer)} {a : AnnounceReply}
    (hpeers : a.peers = Peer.compacts v4 (es.map Prod.snd)) :
    a.count v4 = (ofFamily v4 es).length := by
  have hwidth : 0 < Peer.width v4 := by cases v4 <;> decide
  rw [count, hpeers, Peer.length_compacts, Nat.mul_div_cancel_left _ hwidth, List.countP_map,
    List.countP_eq_length_filter]
  rfl

/-- The reply lists these peers of the swarm: they are different, of one family, and their
compact forms, of which a reader finds as many, are all that there is. -/
structure Lists (v4 : Bool) (w : Swarm) (es : List (PeerId × Peer)) (a : AnnounceReply) : Prop where
  recorded : es ⊆ w.peers.entries
  distinct : (es.map Prod.fst).Nodup
  family : ∀ e ∈ es, e.2.ip.isV4 = v4
  peers : a.peers = es.flatMap fun e => e.2.compact
  number : a.count v4 = es.length

/-- What is kept of a front of the table, in whatever order, is listed. -/
theorem lists_ofFamily {v4 : Bool} {w v : Swarm} {es : List (PeerId × Peer)} {a : AnnounceReply}
    (hperm : w.peers.entries.Perm v.peers.entries) (hes : es.Sublist v.peers.entries)
    (hpeers : a.peers = Peer.compacts v4 (es.map Prod.snd)) : a.Lists v4 w (ofFamily v4 es) where
  recorded := fun _ he => hperm.mem_iff.mpr (hes.mem (List.mem_filter.mp he).1)
  distinct := v.peers.nodup.sublist ((List.filter_sublist.trans hes).map Prod.fst)
  family := fun _ he => eq_of_beq (List.mem_filter.mp he).2
  peers := by
    rw [hpeers, Peer.compacts, List.filter_map, List.flatMap_map]
    rfl
  number := count_eq_length hpeers

end AnnounceReply

/-- The reply to a peer that was saved, gathered from the state as it is found. -/
def gather (rules : Rules) (remote : Net.Endpoint) (r : AnnounceRequest) (usePayloadIp : Bool)
    (u : Update) (wanted : Nat) (badActor : Bool) (s : State) : AnnounceReply × State :=
  let q := announcement remote r usePayloadIp
  let answered := Announce.answer rules q r.infoHash u wanted badActor s
  let kept := answered.1.intoCompact (isV4Remote remote) answered.2.pools
  (⟨r.transactionId, answered.1.interval.toInt32, answered.1.incomplete.toInt32,
    answered.1.complete.toInt32, kept.1.bytes⟩, { answered.2 with pools := kept.2 })

section Gather

variable {rules : Rules} {remote : Net.Endpoint} {r : AnnounceRequest} {usePayloadIp : Bool}
  {u : Update} {wanted : Nat}

theorem handleAnnounce_of_join {now : Int64} (hport : r.port ≠ 0)
    (hintent : Announce.intent rules (announcement remote r usePayloadIp) now =
      .ok (.join r.infoHash r.peerId u wanted)) (s : State) :
    let enrolled := Announce.enroll rules (s.count .announces 1) r.infoHash r.peerId u
    let reply := gather rules remote r usePayloadIp u wanted enrolled.1 enrolled.2
    handleAnnounce rules remote r usePayloadIp now s =
      (announceReply (isV4Remote remote) reply.1, reply.2) := by
  simp only [handleAnnounce, if_neg hport, announce_of_join hintent]
  rfl

/-- A peer that has just been issued its id, names a port and does not stop is answered with a
list. -/
theorem handle_of_joining {now : Int64} (hip : r.ip ≠ some .unspecified)
    (hid : r.connectionId = rules.key.issue remote now) (hport : r.port ≠ 0)
    (hevent : r.event ≠ .stopped) (s : State) :
    ∃ wanted,
      Announce.resolveWanted rules (announcement remote r usePayloadIp).wanted = .ok wanted ∧
      let u := report rules remote r usePayloadIp now
      let enrolled := Announce.enroll rules (s.count .announces 1) r.infoHash r.peerId u
      let reply := gather rules remote r usePayloadIp u wanted enrolled.1 enrolled.2
      handle rules remote usePayloadIp now (Request.announce r).encode s =
        (some (announceReply (isV4Remote remote) reply.1), reply.2) := by
  have hdecode := Request.decode_announce hip
  have hverify : rules.key.verify r.connectionId remote now = true := by
    rw [hid]
    exact ConnectionKey.Good.verify ⟨⟨rfl, rfl⟩, .inl rfl⟩
  obtain ⟨wanted, hwanted, hintent⟩ :=
    intent_of_joining rules remote usePayloadIp now hport hevent
  refine ⟨wanted, hwanted, ?_⟩
  rw [handle_of_announce hdecode hverify, handleAnnounce_of_join hport hintent]

/-- With the buffers of the pools, the front of the table is kept by family. -/
theorem peers_gather (badActor : Bool) {s : State} {limit : Nat}
    (hrestored : s.pools.Restored limit) (hwanted : wanted ≤ limit) {w : Swarm}
    (hw : s.swarm? r.infoHash = some w) :
    (gather rules remote r usePayloadIp u wanted badActor s).1.peers =
      Peer.compacts (isV4Remote remote) ((w.peers.entries.take wanted).map Prod.snd) := by
  obtain ⟨hform, m, -, hshows, hm⟩ :=
    Announce.listing_spec (announcement remote r usePayloadIp) s r.infoHash wanted
  rw [hm limit hrestored hwanted, ← List.take_eq_take_min, Store.listed_eq hw] at hshows
  let answered := Announce.answer rules (announcement remote r usePayloadIp) r.infoHash u wanted
    badActor s
  have hcompact : answered.1.peers.isCompact = true := hform
  exact intoCompact_bytes hcompact hshows _ _

end Gather

section Shares

variable {rules : Rules} {remote : Net.Endpoint} {r : AnnounceRequest} {usePayloadIp : Bool}
  {u : Update} {wanted limit : Nat} (badActor : Bool) {s : State} {w : Swarm}
  (hrestored : s.pools.Restored limit) (hwanted : wanted ≤ limit)
  (hw : s.swarm? r.infoHash = some w)
include hrestored hwanted hw

/-- In every order peers of the family are listed, as many as the bounds leave open. -/
theorem gather_of_reordered {t : State} (ht : s.Reordered t) :
    let a := (gather rules remote r usePayloadIp u wanted badActor t).1
    let ofRemote := (ofFamily (isV4Remote remote) w.peers.entries).length
    (∃ es, a.Lists (isV4Remote remote) w es) ∧
      a.count (isV4Remote remote) ≤ min wanted ofRemote ∧
      min wanted w.peers.size ≤ a.count (isV4Remote remote) + (w.peers.size - ofRemote) := by
  intro a ofRemote
  obtain ⟨v, hv, hreordered⟩ := ht.of_swarm? hw
  have hpeers : (gather rules remote r usePayloadIp u wanted badActor t).1.peers = _ :=
    peers_gather badActor (ht.pools ▸ hrestored) hwanted hv
  have hsize : w.peers.size = v.peers.entries.length := hreordered.peers.length_eq
  have hofRemote : ofRemote = (ofFamily (isV4Remote remote) v.peers.entries).length :=
    (hreordered.peers.filter _).length_eq
  rw [AnnounceReply.count_eq_length hpeers, hsize, hofRemote]
  refine ⟨⟨_, AnnounceReply.lists_ofFamily hreordered.peers (List.take_sublist _ _) hpeers⟩, ?_, ?_⟩
  · exact length_filter_take_le _ _ _
  · exact min_le_length_filter_take _ _ _

/-- Each number between the bounds is listed in some order. -/
theorem exists_gather_count {k : Nat}
    (hle : k ≤ min wanted (ofFamily (isV4Remote remote) w.peers.entries).length)
    (hge : min wanted w.peers.size ≤
      k + (w.peers.size - (ofFamily (isV4Remote remote) w.peers.entries).length)) :
    ∃ t, s.Reordered t ∧
      (gather rules remote r usePayloadIp u wanted badActor t).1.count (isV4Remote remote) = k := by
  obtain ⟨es, hperm, hcount⟩ := exists_perm_length_filter_take _ _ _ hle hge
  obtain ⟨t, v, ht, hv, hentries⟩ := State.exists_reordered hw hperm
  have hpeers : (gather rules remote r usePayloadIp u wanted badActor t).1.peers = _ :=
    peers_gather badActor (ht.pools ▸ hrestored) hwanted hv
  refine ⟨t, ht, ?_⟩
  rw [AnnounceReply.count_eq_length hpeers, hentries]
  exact hcount

end Shares

/-- **Peers of both families share the places.** With settings that pass their check, and in
whatever state demands have led the tracker to, a datagram with an id that is good for its
sender and a port, which is not a stop, is answered with a list. Let the swarm that its save
leaves have `size` peers, `ofRemote` of them of the family of the sender. In whatever order
the tables are found then, the list consists of different peers of that family, no more than
are wanted or than there are, and peers that are wanted are missing from it only for peers
of the other family that took their places. Any number between these bounds is that of some
order. So in every order as many are listed as are wanted, or all of the family, if and only
if nobody is wanted, the whole swarm is of one family, or all of it is wanted. -/
theorem families_share_places (settings : Settings) (hcheck : settings.check = .ok ())
    (secret : Bytes) (random : RandomSource) {s : State}
    (hs : Reachable (.ofSettings settings secret) (.ofSettings settings random) s)
    (remote : Net.Endpoint) (usePayloadIp : Bool) (now : Int64) {d : Bytes} {r : AnnounceRequest}
    (hdecode : Request.decode d = .ok (.announce r))
    (hverify : (Rules.ofSettings settings secret).key.verify r.connectionId remote now = true)
    (hport : r.port ≠ 0) (hevent : r.event ≠ .stopped) :
    let rules := Rules.ofSettings settings secret
    let v4 := isV4Remote remote
    let u := report rules remote r usePayloadIp now
    let enrolled := Announce.enroll rules (s.count .announces 1) r.infoHash r.peerId u
    ∃ wanted w,
      Announce.resolveWanted rules (announcement remote r usePayloadIp).wanted = .ok wanted ∧
      enrolled.2.swarm? r.infoHash = some w ∧ (w.peers.get? r.peerId).isSome ∧
      let reply := gather rules remote r usePayloadIp u wanted enrolled.1
      let size := w.peers.size
      let ofRemote := (ofFamily v4 w.peers.entries).length
      handle rules remote usePayloadIp now d s =
        (some (announceReply v4 (reply enrolled.2).1), (reply enrolled.2).2) ∧
      (∀ t, enrolled.2.Reordered t →
        (∃ es, (reply t).1.Lists v4 w es) ∧ (reply t).1.count v4 ≤ min wanted ofRemote ∧
          min wanted size ≤ (reply t).1.count v4 + (size - ofRemote)) ∧
      (∀ k ≤ min wanted ofRemote, min wanted size ≤ k + (size - ofRemote) →
        ∃ t, enrolled.2.Reordered t ∧ (reply t).1.count v4 = k) ∧
      ((∀ t, enrolled.2.Reordered t → (reply t).1.count v4 = min wanted ofRemote) ↔
        wanted = 0 ∨ ofRemote = 0 ∨ ofRemote = size ∨ size ≤ wanted) := by
  intro rules v4 u enrolled
  obtain ⟨wanted, hwanted, hintent⟩ :=
    intent_of_joining rules remote usePayloadIp now hport hevent
  obtain ⟨w, hw, hmem⟩ := Announce.swarm?_enroll rules r.infoHash r.peerId u
    (s.count .announces 1)
  have hstart : (s.count .announces 1).pools.Restored settings.tracker.numwantLimit.toNat :=
    hs.restored (Pools.restored_fresh _)
  have hrestored : enrolled.2.pools.Restored settings.tracker.numwantLimit.toNat :=
    Announce.restored_enroll rules r.infoHash r.peerId u hstart
  have hlimit : wanted ≤ settings.tracker.numwantLimit.toNat :=
    (Settings.check_eq_ok_iff.mp hcheck).wanted_le hwanted
  refine ⟨wanted, w, hwanted, hw, hmem, ?_⟩
  intro reply size ofRemote
  have hbounds : ∀ t, enrolled.2.Reordered t →
      (∃ es, (reply t).1.Lists v4 w es) ∧ (reply t).1.count v4 ≤ min wanted ofRemote ∧
        min wanted size ≤ (reply t).1.count v4 + (size - ofRemote) :=
    fun t ht => gather_of_reordered enrolled.1 hrestored hlimit hw ht
  have hattained : ∀ k ≤ min wanted ofRemote, min wanted size ≤ k + (size - ofRemote) →
      ∃ t, enrolled.2.Reordered t ∧ (reply t).1.count v4 = k :=
    fun k hle hge => exists_gather_count enrolled.1 hrestored hlimit hw hle hge
  have hfamily : ofRemote ≤ size := List.length_filter_le _ _
  refine ⟨?_, hbounds, hattained, ?_, ?_⟩
  · rw [handle_of_announce hdecode hverify, handleAnnounce_of_join hport hintent]
  · intro hfull
    -- the order that lists the fewest
    obtain ⟨t, ht, hleast⟩ := hattained (min wanted size - (size - ofRemote)) (by omega) (by omega)
    have := hfull t ht
    omega
  · intro hcase t ht
    obtain ⟨-, hle, hge⟩ := hbounds t ht
    omega

/-- What an IPv4 peer sends that wants one other, with an id that is good at second 5. -/
def modestRequest (rules : Rules) (remote : Net.Endpoint) : AnnounceRequest :=
  { sampleRequest remote with connectionId := rules.key.issue remote 5, wanted := 1 }

/-- A swarm of one IPv6 peer. -/
def sampleIpv6 (rules : Rules) : State :=
  let q := { sampleAnnouncement otherId with ip := .v6 ⟨0x2001, 0xDB8, 0, 0, 0, 0, 0, 1⟩ }
  (Demand.announce q 1 true).exec rules (.ofSettings {} (.ofList []))

theorem reachable_sampleIpv6 (rules : Rules) :
    Reachable rules (.ofSettings {} (.ofList [])) (sampleIpv6 rules) := by
  rw [sampleIpv6]
  exact .serve _ .refl trivial

/-- An IPv4 peer that joins the IPv6 one and wants one other may get nobody or itself. -/
theorem families_share_places_modest :
    let rules := Rules.ofSettings {} []
    let remote : Net.Endpoint := ⟨.v4 ⟨10, 0, 0, 1⟩, 6881, 0⟩
    let r := modestRequest rules remote
    let s := sampleIpv6 rules
    let u := report rules remote r false 5
    let enrolled := Announce.enroll rules (s.count .announces 1) r.infoHash r.peerId u
    Settings.check {} = .ok () ∧ Reachable rules (.ofSettings {} (.ofList [])) s ∧
      Request.decode (Request.announce r).encode = .ok (.announce r) ∧
      rules.key.verify r.connectionId remote 5 = true ∧
      ∃ t t', enrolled.2.Reordered t ∧ enrolled.2.Reordered t' ∧
        (gather rules remote r false u 1 enrolled.1 t).1.count true = 0 ∧
        (gather rules remote r false u 1 enrolled.1 t').1.count true = 1 := by
  intro rules remote r s u enrolled
  have hcheck : Settings.check {} = .ok () := by decide +kernel
  have hs := reachable_sampleIpv6 rules
  have hdecode : Request.decode (Request.announce r).encode = .ok (.announce r) := by
    decide +kernel
  have hverify : rules.key.verify r.connectionId remote 5 = true := by decide +kernel
  obtain ⟨wanted, w, hwanted, hw, -, -, -, hattained, -⟩ :=
    families_share_places {} hcheck [] (.ofList []) hs remote false 5 hdecode hverify
      (by decide) (by decide)
  have hone : wanted = 1 := (Except.ok.inj hwanted).symm
  have hswarm : ∀ w, enrolled.2.swarm? r.infoHash = some w →
      w.peers.size = 2 ∧ (ofFamily true w.peers.entries).length = 1 := by decide +kernel
  obtain ⟨hsize, hfamily⟩ := hswarm w hw
  have hv4 : isV4Remote remote = true := rfl
  rw [hone, hsize, hv4, hfamily] at hattained
  obtain ⟨t, ht, hnone⟩ := hattained 0 (by decide) (by decide)
  obtain ⟨t', ht', hself⟩ := hattained 1 (by decide) (by decide)
  exact ⟨hcheck, hs, hdecode, hverify, t, t', ht, ht', hnone, hself⟩

/-- It gets nobody where the IPv6 peer comes first, though it is of its own family itself. -/
theorem other_family_takes_the_place :
    let rules := Rules.ofSettings {} []
    let remote : Net.Endpoint := ⟨.v4 ⟨10, 0, 0, 1⟩, 6881, 0⟩
    let r := modestRequest rules remote
    let s := sampleIpv6 rules
    let out := handle rules remote false 5 (Request.announce r).encode s
    Settings.check {} = .ok () ∧ Reachable rules (.ofSettings {} (.ofList [])) s ∧
      rules.key.verify r.connectionId remote 5 = true ∧ r.port ≠ 0 ∧ r.event ≠ .stopped ∧
      Announce.resolveWanted rules (announcement remote r false).wanted = .ok 1 ∧
      ∃ a w, out.1 = some (announceReply (isV4Remote remote) a) ∧
        out.2.swarm? r.infoHash = some w ∧ a.count (isV4Remote remote) = 0 ∧
        min 1 (ofFamily (isV4Remote remote) w.peers.entries).length = 1 := by
  intro rules remote r s out
  have hcheck : Settings.check {} = .ok () := by decide +kernel
  have hreply : out.1 = some (announceReply true ⟨7, 1800, 0, 2, []⟩) := by decide +kernel
  have hsome : (out.2.swarm? r.infoHash).isSome = true := by decide +kernel
  have hfamily : ∀ w, out.2.swarm? r.infoHash = some w →
      min 1 (ofFamily true w.peers.entries).length = 1 := by decide +kernel
  obtain ⟨w, hw⟩ := Option.isSome_iff_exists.mp hsome
  exact ⟨hcheck, reachable_sampleIpv6 rules, by decide +kernel, by decide, by decide, rfl, _, w,
    hreply, hw, by decide, hfamily w hw⟩

end Udp

end PeerTracker
