import PeerTracker.Main
import PeerTracker.Proofs.Checks
import PeerTracker.Proofs.Families

/-!
# How large replies get

A reply to a scrape has an entry for each hash, of which there are few enough, and errors are
short. A list of peers is as long as the limit on wanted peers allows, and each such length
comes about: a swarm of one family that is large enough is a matter of so many announces
(`crowded_attended`). So how large replies get is known exactly, and the limit tells whether all
of them fit into the 65,507 octets of a datagram over IPv4, which are also all that is looked at
of a datagram that comes in (`Program.datagramLimit`). A datagram over IPv6 may have 20 octets
more, room for one more peer.
-/

namespace PeerTracker

/-! ## A crowd -/

namespace Identifier

/-- A number as an identifier. -/
def numbered (n : Nat) : Identifier := ⟨BigEndian.encode 20 n, BigEndian.length_encode 20 n⟩

theorem numbered_inj {m n : Nat} (hm : m < BigEndian.span 20) (hn : n < BigEndian.span 20)
    (h : numbered m = numbered n) : m = n := by
  rw [numbered, numbered, Identifier.mk.injEq] at h
  exact BigEndian.encode_inj (w := 20) hm hn h

end Identifier

/-- A swarm of the first `n` peers, all of one family. -/
structure Swarm.Crowded (v4 : Bool) (n : Nat) (w : Swarm) : Prop where
  ids : w.peers.entries.map Prod.fst = (List.range n).map Identifier.numbered
  family : ∀ e ∈ w.peers.entries, e.2.ip.isV4 = v4

theorem Swarm.crowded_empty (v4 : Bool) : Crowded v4 0 ∅ where
  ids := rfl
  family := nofun

theorem Swarm.Crowded.length_entries {v4 : Bool} {n : Nat} {w : Swarm} (h : w.Crowded v4 n) :
    w.peers.entries.length = n := by
  rw [← List.length_map (f := Prod.fst), h.ids, List.length_map, List.length_range]

theorem Swarm.Crowded.length_compacts {v4 : Bool} {n : Nat} {w : Swarm} (h : w.Crowded v4 n) :
    (Peer.compacts v4 (w.peers.entries.map Prod.snd)).length = Peer.width v4 * n := by
  have hall : (w.peers.entries.map Prod.snd).countP (fun p => p.ip.isV4 == v4) =
      (w.peers.entries.map Prod.snd).length := by
    refine List.countP_eq_length.mpr fun p hp => ?_
    obtain ⟨e, he, rfl⟩ := List.mem_map.mp hp
    exact beq_iff_eq.mpr (h.family e he)
  rw [Peer.length_compacts, hall, List.length_map, h.length_entries]

/-- One more peer joins. -/
theorem Swarm.Crowded.savePeer {v4 : Bool} {n : Nat} {w : Swarm} (h : w.Crowded v4 n)
    (hn : n < BigEndian.span 20) (p : Peer) {u : Update} (hip : u.ip.isV4 = v4) :
    (Store.savePeer w (.numbered n) p u).Crowded v4 (n + 1) := by
  have hnew : Identifier.numbered n ∉ w.peers.entries.map Prod.fst := by
    rw [h.ids]
    intro hmem
    obtain ⟨m, hm, heq⟩ := List.mem_map.mp hmem
    rw [List.mem_range] at hm
    have hsame := Identifier.numbered_inj (Nat.lt_trans hm hn) hn heq
    omega
  have hentries : (Store.savePeer w (.numbered n) p u).peers.entries =
      w.peers.entries ++ [(.numbered n, w.reported (.numbered n) p u)] :=
    Table.put_of_notMem hnew _
  constructor
  · rw [hentries, List.map_append, h.ids, List.range_succ, List.map_append]
    rfl
  · rw [hentries]
    intro e he
    rcases List.mem_append.mp he with he | he
    · exact h.family e he
    · rw [List.mem_singleton.mp he]
      exact hip

section Crowd

variable (rules : Rules) {v4 : Bool} {n : Nat} {s : State} {hash : InfoHash} {u : Update}

theorem Store.crowded_save (h : (openSwarm s hash).Crowded v4 n) (hn : n < BigEndian.span 20)
    (hip : u.ip.isV4 = v4) :
    ∃ w, (save rules.store s hash (.numbered n) u).2.swarm? hash = some w ∧
      w.Crowded v4 (n + 1) := by
  obtain ⟨t, ht⟩ := save_swarms rules.store s hash (.numbered n) u
  have hsaved := (congrArg (fun swarms => swarms.get? hash) ht).trans
    (Table.get?_insert_self _ _ _)
  have hcrowded := h.savePeer hn (record (openSwarm s hash).peers (.numbered n) s.pools).1 hip
  exact ⟨_, hsaved, ⟨hcrowded.ids, hcrowded.family⟩⟩

theorem Announce.crowded_enroll (h : (Store.openSwarm s hash).Crowded v4 n)
    (hn : n < BigEndian.span 20) (hip : u.ip.isV4 = v4) :
    ∃ w, (enroll rules s hash (.numbered n) u).2.swarm? hash = some w ∧ w.Crowded v4 (n + 1) := by
  obtain ⟨w, hw, hcrowded⟩ := Store.crowded_save rules h hn hip
  exact ⟨w, ((steady_enroll rules s hash _ u).swarm?_eq hash).trans hw, hcrowded⟩

omit rules in
theorem Store.openSwarm_congr {t : State} (h : t.swarm? hash = s.swarm? hash) :
    openSwarm t hash = openSwarm s hash := by
  rw [openSwarm, openSwarm, h]

/-- What the peer of this number announces. -/
def attendance (ip : Net.IpAddr) (n : Nat) : Announcement :=
  { sampleAnnouncement (.numbered n) with ip := ip }

/-- The state after the first `n` peers have announced themselves from one address. -/
def attended (ip : Net.IpAddr) (start : State) : Nat → State
  | 0 => start
  | n + 1 => (Demand.announce (attendance ip n) 1 true).exec rules (attended ip start n)

theorem reachable_attended (ip : Net.IpAddr) (start : State) (n : Nat) :
    Reachable rules start (attended rules ip start n) := by
  induction n with
  | zero => exact .refl
  | succ n ih => exact .serve _ ih trivial

theorem crowded_attended (ip : Net.IpAddr) (limit : Nat) (random : RandomSource) {n : Nat}
    (hn : n ≤ BigEndian.span 20) :
    (Store.openSwarm (attended rules ip (.fresh limit random) n) .zero).Crowded
      ip.canonical.isV4 n := by
  induction n with
  | zero => exact Swarm.crowded_empty _
  | succ n ih =>
      have hport : Announce.port? 6881 = some 6881 := by decide
      let u := Announce.update (attendance ip n) ip.canonical 6881
        (rules.isProvider ip.canonical 6881) 1
      have hintent : Announce.intent rules (attendance ip n) 1 =
          .ok (.join .zero (.numbered n) u rules.numwantDefault) :=
        Announce.intent_eq_join_iff.mpr ⟨rfl, rfl, nofun, 6881, hport, rfl, rfl⟩
      obtain ⟨t, ht, hsteady⟩ := (Demand.announce (attendance ip n) 1 true).performs rules
        (attended rules ip (.fresh limit random) n)
      have hactions : ∀ q, (Demand.announce q 1 true).actions rules = Announce.actions rules q 1 :=
        fun _ => rfl
      rw [hactions, Announce.actions, hintent] at hsteady
      have hbefore : (Store.openSwarm t .zero).Crowded ip.canonical.isV4 n := by
        rw [Store.openSwarm_congr (ht.swarm?_eq .zero)]
        exact ih (Nat.le_of_succ_le hn)
      have hip : u.ip.isV4 = ip.canonical.isV4 := rfl
      obtain ⟨w, hw, hcrowded⟩ := Store.crowded_save rules hbefore
        (Nat.lt_of_succ_le hn) hip
      have hafter := (hsteady.swarm?_eq .zero).trans hw
      have hsound : (attended rules ip (.fresh limit random) (n + 1)).Sound :=
        (reachable_attended rules ip _ _).sound (State.sound_fresh _ _)
      have hlive := (hsound .zero w hafter).live
      have hopen := Store.openSwarm_eq hafter hlive
      change Store.openSwarm (attended rules ip (.fresh limit random) (n + 1)) .zero = w at hopen
      rw [hopen]
      exact hcrowded

end Crowd

namespace Udp

/-! ## Bounds -/

/-- The size of the largest reply: of a scrape, or of a list as long as the limit allows. -/
def largestReply (v4 : Bool) (limit : Nat) : Nat :=
  max (8 + 12 * Scrape.maxHashes) (20 + Peer.width v4 * limit)

theorem size_announceReply (v4 : Bool) (a : AnnounceReply) :
    (announceReply v4 a).size = 20 + a.peers.length := by
  cases v4 <;> rfl

section Bounds

variable {v4 : Bool} {limit : Nat}

/-- The texts of errors are short. -/
theorem size_error_le (t : Int32) {text : String} (h : (Utf8.ofString text).length ≤ 888) :
    (Response.error t text).size ≤ largestReply v4 limit := by
  refine Nat.le_trans ?_ (Nat.le_max_left _ _)
  show 8 + (Utf8.ofString text).length ≤ 8 + 12 * 74
  omega

theorem size_scrape_le (t : Int32) {counts : List ScrapeCounts}
    (h : counts.length ≤ Scrape.maxHashes) :
    (Response.scrape t counts).size ≤ largestReply v4 limit :=
  Nat.le_trans (Nat.add_le_add_left (Nat.mul_le_mul_left 12 h) 8) (Nat.le_max_left _ _)

theorem size_announceReply_le {a : AnnounceReply} (h : a.peers.length ≤ Peer.width v4 * limit) :
    (announceReply v4 a).size ≤ largestReply v4 limit := by
  rw [size_announceReply]
  exact Nat.le_trans (Nat.add_le_add_left h 20) (Nat.le_max_right _ _)

variable {rules : Rules} {remote : Net.Endpoint} {usePayloadIp : Bool} {now : Int64} {s : State}

theorem size_verified_le (id : Int64) (t : Int32) {next : Response × State}
    (h : next.1.size ≤ largestReply v4 limit) :
    (verified rules remote id now t s next).1.size ≤ largestReply v4 limit := by
  unfold verified
  split
  · exact h
  · exact size_error_le t (by decide)

theorem size_handleScrape_le (r : ScrapeRequest) :
    (handleScrape r s).1.size ≤ largestReply v4 limit := by
  unfold handleScrape
  split
  · next entries _ heq =>
    obtain ⟨hfew, ids, hids, rfl⟩ := Scrape.process_eq_ok_iff.mp (congrArg Prod.fst heq)
    refine size_scrape_le _ ?_
    rw [hids, List.length_map] at hfew
    rw [List.length_map, List.length_map]
    exact hfew
  · next e _ heq =>
    have hprocess := congrArg Prod.fst heq
    change Scrape.process _ _ = .error e at hprocess
    rw [Scrape.process_eq] at hprocess
    refine size_error_le _ ?_
    split at hprocess
    · cases hprocess
      decide
    · split at hprocess
      · cases hprocess
        decide
      · cases hprocess

theorem size_handleAnnounce_le (hrestored : s.pools.Restored limit)
    (hlimit : ∀ n? wanted, Announce.resolveWanted rules n? = .ok wanted → wanted ≤ limit)
    (r : AnnounceRequest) :
    (handleAnnounce rules remote r usePayloadIp now s).1.size ≤
      largestReply (isV4Remote remote) limit := by
  by_cases hport : r.port = 0
  · rw [handleAnnounce, if_pos hport]
    exact size_error_le _ (by decide)
  by_cases hevent : r.event = .stopped
  · have hintent : Announce.intent rules (announcement remote r usePayloadIp) now =
        .ok (.stop r.infoHash r.peerId _) :=
      Announce.intent_eq_stop_iff.mpr ⟨rfl, rfl, hevent, rfl⟩
    simp only [handleAnnounce, if_neg hport, announce_of_stop hintent]
    exact size_announceReply_le (Nat.zero_le _)
  · obtain ⟨wanted, hwanted, hintent⟩ :=
      intent_of_joining rules remote usePayloadIp now hport hevent
    rw [handleAnnounce_of_join hport hintent]
    refine size_announceReply_le ?_
    obtain ⟨w, hw, -⟩ := Announce.swarm?_enroll rules r.infoHash r.peerId
      (report rules remote r usePayloadIp now) (s.count .announces 1)
    have hafter := Announce.restored_enroll rules r.infoHash r.peerId
      (report rules remote r usePayloadIp now) (s := s.count .announces 1) hrestored
    rw [peers_gather _ hafter (hlimit _ _ hwanted) hw, Peer.length_compacts]
    refine Nat.mul_le_mul_left _ (Nat.le_trans List.countP_le_length ?_)
    rw [List.length_map]
    exact Nat.le_trans (List.length_take_le _ _) (hlimit _ _ hwanted)

/-- No reply is larger. -/
theorem size_handle_le (hrestored : s.pools.Restored limit)
    (hlimit : ∀ n? wanted, Announce.resolveWanted rules n? = .ok wanted → wanted ≤ limit)
    {d : Bytes} {r : Response} (h : (handle rules remote usePayloadIp now d s).1 = some r) :
    r.size ≤ largestReply (isV4Remote remote) limit := by
  have hverdict := Request.verdict_decode d
  unfold handle at h
  generalize Request.decode d = result at hverdict h
  cases hverdict with
  | short => cases h
  | stranger => cases h
  | connect =>
      cases h
      exact Nat.le_trans (show 16 ≤ 8 + 12 * 74 by decide) (Nat.le_max_left _ _)
  | announce =>
      cases h
      exact size_verified_le _ _ (size_handleAnnounce_le hrestored hlimit _)
  | scrape =>
      cases h
      exact size_verified_le _ _ (size_handleScrape_le _)
  | cut | ragged | unknown =>
      cases h
      exact size_verified_le _ _ (size_error_le _ (by decide))

end Bounds

/-! ## Each length of a list comes about -/

/-- What the peer of number `n` sends that wants itself and all before it, with an id that is
good at second 5. -/
def crowdRequest (rules : Rules) (remote : Net.Endpoint) (n : Nat) : AnnounceRequest :=
  { sampleRequest remote with
    connectionId := rules.key.issue remote 5
    peerId := .numbered n
    wanted := Int32.ofNat (n + 1) }

theorem resolveWanted_crowdRequest {rules : Rules} (remote : Net.Endpoint) {n : Nat}
    (hword : n + 1 < 2 ^ 31) (hlimit : n + 1 ≤ rules.numwantLimit) :
    Announce.resolveWanted rules (announcement remote (crowdRequest rules remote n) false).wanted =
      .ok (n + 1) := by
  have htoInt : (Int32.ofNat (n + 1)).toInt = (n + 1 : Nat) := Int32.toInt_ofNat_of_lt hword
  have hwanted : (announcement remote (crowdRequest rules remote n) false).wanted =
      some (Int32.ofNat (n + 1)).toInt64 := by
    show (if 1 ≤ (Int32.ofNat (n + 1)).toInt then _ else _) = _
    rw [if_pos (by omega)]
    rfl
  rw [hwanted, Announce.resolveWanted, Int32.toInt_toInt64, htoInt, if_neg (by omega),
    Int.toNat_natCast, Nat.min_eq_left hlimit]

/-- After `n` announces the next one is answered with a list of `n + 1` peers. -/
theorem exists_reply_of_size (rules : Rules) {limit : Nat} (random : RandomSource)
    (remote : Net.Endpoint) {n : Nat} (hrules : rules.numwantLimit = limit)
    (hlimit : n + 1 ≤ limit) (hword : n + 1 < 2 ^ 31) :
    ∃ s, Reachable rules (.fresh limit random) s ∧ ∃ d r,
      (handle rules remote false 5 d s).1 = some r ∧
        r.size = 20 + Peer.width (isV4Remote remote) * (n + 1) := by
  let s := attended rules remote.ip (.fresh limit random) n
  let r := crowdRequest rules remote n
  have hs : Reachable rules (.fresh limit random) s := reachable_attended rules remote.ip _ n
  have hport : r.port ≠ 0 := by show (6881 : UInt16) ≠ 0; decide
  obtain ⟨wanted, hwanted, hhandle⟩ := handle_of_joining (r := r) nofun rfl hport nofun s
  rw [resolveWanted_crowdRequest remote hword (hrules ▸ hlimit), Except.ok.injEq] at hwanted
  subst hwanted
  refine ⟨s, hs, (Request.announce r).encode, _, congrArg Prod.fst hhandle, ?_⟩
  let u := report rules remote r false 5
  have hspan : n + 1 ≤ BigEndian.span 20 :=
    Nat.le_trans (Nat.le_of_lt hword) (show 2 ^ 31 ≤ BigEndian.span 20 by decide)
  have hbefore : (Store.openSwarm (s.count .announces 1) r.infoHash).Crowded
      (isV4Remote remote) n :=
    crowded_attended rules remote.ip limit random (Nat.le_of_succ_le hspan)
  obtain ⟨w, hw, hcrowded⟩ := Announce.crowded_enroll rules (u := u) hbefore
    (Nat.lt_of_succ_le hspan) rfl
  have hafter := Announce.restored_enroll rules r.infoHash r.peerId u (s := s.count .announces 1)
    (hs.restored (Pools.restored_fresh limit))
  have hall : w.peers.entries.take (n + 1) = w.peers.entries :=
    List.take_of_length_le (Nat.le_of_eq hcrowded.length_entries)
  rw [size_announceReply, peers_gather (r := r) _ hafter hlimit hw, hall,
    hcrowded.length_compacts]

/-! ## All replies -/

/-- What holds of the octets of each reply, and of whom it is for, wherever a tracker with these
settings has come to. -/
def EachReply (settings : Settings) (secret : Bytes) (P : Net.Endpoint → Bytes → Prop) : Prop :=
  let rules := Rules.ofSettings settings secret
  ∀ (random : RandomSource) (s : State), Reachable rules (.ofSettings settings random) s →
    ∀ remote usePayloadIp now d r, (handle rules remote usePayloadIp now d s).1 = some r →
      P remote (r.send (handle rules remote usePayloadIp now d s).2).1

section EachReply

variable {settings : Settings} {secret : Bytes}

theorem length_send_handle {random : RandomSource} {s : State}
    (hs : Reachable (.ofSettings settings secret) (.ofSettings settings random) s)
    (remote : Net.Endpoint) (usePayloadIp : Bool) (now : Int64) (d : Bytes) (r : Response) :
    (r.send (handle (.ofSettings settings secret) remote usePayloadIp now d s).2).1.length =
      r.size := by
  have hrestored := Demand.restored_handle (.ofSettings settings secret) s
    (hs.restored (Pools.restored_fresh _)) remote usePayloadIp now d
  rw [Response.send_bytes hrestored, Response.length_encode]

theorem eachReply_largest (secret : Bytes) (hcheck : settings.check = .ok ()) :
    EachReply settings secret fun remote bs =>
      bs.length ≤ largestReply (isV4Remote remote) settings.tracker.numwantLimit.toNat := by
  intro random s hs remote usePayloadIp now d r h
  have hlimit : ∀ n? wanted, Announce.resolveWanted (.ofSettings settings secret) n? = .ok wanted →
      wanted ≤ settings.tracker.numwantLimit.toNat :=
    fun _ _ => (Settings.check_eq_ok_iff.mp hcheck).wanted_le
  rw [length_send_handle hs]
  exact size_handle_le (hs.restored (Pools.restored_fresh _)) hlimit h

/-- A sender of each family. -/
def senderOf (v4 : Bool) : Net.Endpoint :=
  if v4 then ⟨.v4 ⟨10, 0, 0, 1⟩, 6881, 0⟩ else ⟨.v6 ⟨0x2001, 0xDB8, 0, 0, 0, 0, 0, 1⟩, 6881, 0⟩

theorem isV4Remote_senderOf (v4 : Bool) : isV4Remote (senderOf v4) = v4 := by
  cases v4 <;> rfl

/-- If the longest list that is allowed is too long for a datagram, some reply is. -/
theorem not_eachReply_of_lt (settings : Settings) (secret : Bytes) (v4 : Bool)
    (h : Program.datagramLimit.toNat < 20 + Peer.width v4 * settings.tracker.numwantLimit.toNat) :
    ¬EachReply settings secret fun remote bs =>
      isV4Remote remote = v4 → bs.length ≤ Program.datagramLimit.toNat := by
  intro hall
  have hmost : Program.datagramLimit.toNat = 65507 := rfl
  rw [hmost] at h hall
  have hwidth : 0 < Peer.width v4 := by cases v4 <;> decide
  -- the shortest list that does not fit
  let n := (65507 - 20) / Peer.width v4
  have hexceeds : 65507 - 20 < Peer.width v4 * (n + 1) := Nat.lt_mul_div_succ _ hwidth
  have hlimit : n < settings.tracker.numwantLimit.toNat := Nat.div_lt_of_lt_mul (by omega)
  have hdiv : n ≤ 65507 - 20 := Nat.div_le_self _ _
  have hword : n + 1 < 2 ^ 31 := by omega
  obtain ⟨s, hs, d, r, hr, hsize⟩ :=
    exists_reply_of_size (.ofSettings settings secret) (.ofList []) (senderOf v4) rfl hlimit hword
  have hfits := hall (.ofList []) s hs (senderOf v4) false 5 d r hr (isV4Remote_senderOf v4)
  rw [length_send_handle hs, hsize, isV4Remote_senderOf] at hfits
  omega

end EachReply

/-- **Replies fit into datagrams, unless too many peers may be wanted.** With settings that pass
their check, and wherever demands of any kind have led the tracker: no reply to any datagram is
larger than the answer to a scrape of as many hashes as there may be, or than a list of as many
peers of the sender's family as there may be. All replies to senders of one family stay within
65,507 octets if and only if the longest list does; so that all replies do just if the limit on
wanted peers is at most 3638. The check of the settings asks for no such limit. -/
theorem replies_fit_datagrams (settings : Settings) (hcheck : settings.check = .ok ())
    (secret : Bytes) :
    let limit := settings.tracker.numwantLimit.toNat
    let most := Program.datagramLimit.toNat
    (EachReply settings secret fun remote bs =>
      bs.length ≤ largestReply (isV4Remote remote) limit) ∧
      (∀ v4, (EachReply settings secret fun remote bs =>
          isV4Remote remote = v4 → bs.length ≤ most) ↔ 20 + Peer.width v4 * limit ≤ most) ∧
      ((EachReply settings secret fun _ bs => bs.length ≤ most) ↔ limit ≤ 3638) := by
  intro limit most
  have hmost : most = 65507 := rfl
  have hlargest := eachReply_largest secret hcheck
  have hfamily : ∀ v4, (EachReply settings secret fun remote bs =>
      isV4Remote remote = v4 → bs.length ≤ most) ↔ 20 + Peer.width v4 * limit ≤ most := by
    intro v4
    constructor
    · intro h
      refine Nat.le_of_not_lt fun hlarge => ?_
      exact not_eachReply_of_lt settings secret v4 hlarge h
    · rintro hfits random s hs remote usePayloadIp now d r h rfl
      refine Nat.le_trans (hlargest random s hs remote usePayloadIp now d r h) ?_
      exact Nat.max_le.mpr ⟨by rw [hmost]; decide, hfits⟩
  refine ⟨hlargest, hfamily, ?_, ?_⟩
  · intro h
    have hv6 := (hfamily false).mp fun random s hs remote usePayloadIp now d r hr _ =>
      h random s hs remote usePayloadIp now d r hr
    change 20 + 18 * limit ≤ most at hv6
    omega
  · intro hlimit random s hs remote usePayloadIp now d r hr
    have hwidth : Peer.width (isV4Remote remote) ≤ 18 := by
      cases isV4Remote remote <;> decide
    have hlist := Nat.mul_le_mul hwidth hlimit
    have hfits := (hfamily (isV4Remote remote)).mpr (by omega)
    exact hfits random s hs remote usePayloadIp now d r hr rfl

/-- With the settings that a tracker comes with, all replies fit. -/
theorem replies_fit_datagrams_default :
    Settings.check {} = .ok () ∧ EachReply {} [] fun _ bs => bs.length ≤ 65507 := by
  have hcheck : Settings.check {} = .ok () := by decide +kernel
  exact ⟨hcheck, (replies_fit_datagrams {} hcheck []).2.2.mpr (by decide)⟩

/-- Settings with the least limit that is too large for any datagram over IPv6. -/
def generousSettings : Settings := { tracker := { numwantLimit := 3640 } }

/-- These settings pass their check, but after 3639 announces the next one is answered with 65,540
octets, where even a datagram over IPv6 has no room for more than 65,527. -/
theorem generous_limit_exceeds_datagram :
    let rules := Rules.ofSettings generousSettings []
    let start := State.ofSettings generousSettings (.ofList [])
    generousSettings.check = .ok () ∧
      (∃ s, Reachable rules start s ∧ ∃ d r,
        (handle rules (senderOf false) false 5 d s).1 = some r ∧ r.encode.length = 65540) ∧
      ¬EachReply generousSettings [] fun _ bs => bs.length ≤ Program.datagramLimit.toNat := by
  intro rules start
  have hcheck : generousSettings.check = .ok () := by decide +kernel
  obtain ⟨s, hs, d, r, hr, hsize⟩ := exists_reply_of_size (n := 3639) rules (.ofList [])
    (senderOf false) rfl (Nat.le_refl _) (by decide)
  refine ⟨hcheck, ⟨s, hs, d, r, hr, (Response.length_encode r).trans hsize⟩, fun h => ?_⟩
  refine not_eachReply_of_lt generousSettings [] false (by decide) ?_
  exact fun random s hs remote usePayloadIp now d r hr _ =>
    h random s hs remote usePayloadIp now d r hr

end Udp

end PeerTracker
