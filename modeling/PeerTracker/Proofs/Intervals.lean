import PeerTracker.Proofs.Families
import PeerTracker.Proofs.Hints

/-!
# Announce intervals

The interval of a reply is the configured one and a random number below the fuzz. Both are
configured as unsigned words and added as signed ones, and a datagram has half a word for the
sum. The check of the settings bounds neither, so that the sum may wrap
(`Announce.toInt_interval`). Each number below the fuzz is drawn by some fair source
(`Announce.extra_of_ofList`), so that all replies are right just if the greatest sum fits.
-/

namespace PeerTracker

namespace TrackerSettings

/-- The first number of seconds that is too long for an interval. -/
def intervalEnd (t : TrackerSettings) : Nat := t.announceInterval.toNat + max t.announceFuzz.toNat 1

/-- The seconds that may be announced: those configured, and less than the fuzz more. -/
def Allows (t : TrackerSettings) (seconds : Int) : Prop :=
  t.announceInterval.toNat ≤ seconds ∧ seconds < t.intervalEnd

/-- Numbers that may both be announced are equal if they are so up to wrapping. -/
theorem Allows.eq_of_bmod {t : TrackerSettings} {m n : Int} (hm : t.Allows m)
    (hn : t.Allows n) (h : m = n.bmod (2 ^ 64)) : m = n := by
  obtain ⟨hm, hm'⟩ := hm
  obtain ⟨hn, hn'⟩ := hn
  have hfuzz := t.announceFuzz.toNat_lt
  rw [intervalEnd] at hm' hn'
  rw [Int.bmod_def] at h
  split at h <;> omega

theorem allows_last (t : TrackerSettings) : t.Allows (t.intervalEnd - 1) := by
  rw [Allows, intervalEnd]
  omega

end TrackerSettings

theorem toInt_toInt64_eq_bmod (n : UInt64) : n.toInt64.toInt = (n.toNat : Int).bmod (2 ^ 64) :=
  n.toBitVec.toInt_eq_toNat_bmod

namespace Announce

variable (r : Rules) {s : State}

/-! ## One interval -/

/-- What is added to the configured interval. -/
def extra (s : State) : Nat := if r.fuzz = 0 then 0 else (s.random.below r.fuzz).1.toNat

theorem toInt_interval (s : State) :
    (interval r s).1.toInt = (r.interval.toInt + extra r s).bmod (2 ^ 64) := by
  unfold interval extra
  split
  · show r.interval.toInt = (r.interval.toInt + 0).bmod (2 ^ 64)
    rw [Int.add_zero]
    exact (Int64.toInt_bmod r.interval).symm
  · show (r.interval + (s.random.below r.fuzz).1.toInt64).toInt = _
    rw [Int64.toInt_add, toInt_toInt64_eq_bmod, Int.add_bmod_bmod]

theorem extra_lt (hfair : s.random.Fair) : extra r s < max r.fuzz.toNat 1 := by
  unfold extra
  split
  · omega
  · next hfuzz =>
    have hpos : 0 < r.fuzz := UInt64.pos_iff_ne_zero.mpr hfuzz
    have hlt := UInt64.lt_iff_toNat_lt.mp (hfair s.random.asked r.fuzz hpos)
    exact Nat.lt_of_lt_of_le hlt (Nat.le_max_left _ _)

/-- A source that has one answer only draws it whenever it is below the fuzz. -/
theorem extra_of_ofList {x : UInt64} (hanswer : s.random.answer = (RandomSource.ofList [x]).answer)
    (hx : x.toNat < max r.fuzz.toNat 1) : extra r s = x.toNat := by
  unfold extra
  split
  · next hfuzz =>
    rw [hfuzz] at hx
    exact (Nat.lt_one_iff.mp hx).symm
  · next hfuzz =>
    have hbelow : x.toNat < r.fuzz.toNat := by
      have hpos := UInt64.lt_iff_toNat_lt.mp (UInt64.pos_iff_ne_zero.mpr hfuzz)
      change 0 < r.fuzz.toNat at hpos
      omega
    have hdraw : (s.random.below r.fuzz).1 = x % r.fuzz := by
      show s.random.answer s.random.asked r.fuzz = _
      rw [hanswer]
      simp only [RandomSource.ofList, hfuzz, List.cons_ne_nil, or_false, if_false,
        List.length_singleton, Nat.mod_one, List.getD_cons_zero]
    rw [hdraw, UInt64.toNat_mod, Nat.mod_eq_of_lt hbelow]

end Announce

/-! ## Replies -/

section Replies

variable {r : Rules} {q : Announcement} {now : Int64} {s : State}

/-- The interval of a reply is drawn from the source that was there before. -/
theorem exists_interval_of_announced {reply : AnnounceResult}
    (h : (announce r q now s).1 = .ok (.announced reply)) :
    ∃ t : State, t.random.answer = s.random.answer ∧
      reply.interval = (Announce.interval r t).1 := by
  obtain ⟨hash, id, u, wanted, hintent⟩ := intent_of_announced h
  rw [announce_of_join hintent] at h
  obtain rfl := AnnounceOutcome.announced.inj (Except.ok.inj h)
  have hsave := Action.random_exec r.store (s.count .announces 1) (.command (.save hash id u))
  have henroll := Announce.steady_enroll r (s.count .announces 1) hash id u
  generalize Announce.enroll r (s.count .announces 1) hash id u = enrolled at henroll
  have hlisting := Announce.steady_listing q hash wanted enrolled.2
  have hhint := Announce.steady_hint q hash u (Announce.listing q enrolled.2 hash wanted).2
  refine ⟨_, ((hlisting.trans hhint).source.trans henroll.source).trans ?_, rfl⟩
  exact congrArg RandomSource.answer hsave

end Replies

namespace Udp

variable {rules : Rules} {remote : Net.Endpoint} {usePayloadIp : Bool} {now : Int64} {s : State}
  {d : Bytes} {r : AnnounceRequest}

/-- An announce by datagram that is no stop is answered with a list only if the service has
made a reply, of which it carries the lower half of the interval. -/
theorem announced_of_handle (hdecode : Request.decode d = .ok (.announce r))
    (hevent : r.event ≠ .stopped) {a : AnnounceReply}
    (h : (handle rules remote usePayloadIp now d s).1 =
      some (announceReply (isV4Remote remote) a)) :
    ∃ reply, (announce rules (announcement remote r usePayloadIp) now s).1 =
        .ok (.announced reply) ∧ a.interval = reply.interval.toInt32 := by
  have herror : ∀ t text, some (Response.error t text) ≠
      some (announceReply (isV4Remote remote) a) := by
    intro t text heq
    unfold announceReply at heq
    split at heq <;> cases heq
  by_cases hverify : rules.key.verify r.connectionId remote now = true
  · rw [handle_of_announce hdecode hverify] at h
    by_cases hport : r.port = 0
    · simp only [handleAnnounce, if_pos hport] at h
      exact absurd h (herror _ _)
    · obtain ⟨wanted, -, hintent⟩ := intent_of_joining rules remote usePayloadIp now hport hevent
      rw [handleAnnounce_of_join hport hintent] at h
      rw [announce_of_join hintent]
      refine ⟨_, rfl, ?_⟩
      unfold announceReply at h
      split at h <;> (cases h; rfl)
  · simp only [handle, hdecode, verified, hverify] at h
    exact absurd h (herror _ _)

end Udp

/-! ## All replies -/

/-- What holds of the interval of each reply that the service makes, wherever a tracker with
these settings and a fair source has come to. -/
def Settings.EachInterval (settings : Settings) (secret : Bytes) (P : Int64 → Prop) : Prop :=
  let rules := Rules.ofSettings settings secret
  ∀ (random : RandomSource) (s : State), random.Fair →
    Reachable rules (.ofSettings settings random) s →
    ∀ q now reply, (announce rules q now s).1 = .ok (.announced reply) → P reply.interval

/-- Each announce by datagram that is no stop and is answered with a list was answered by the
service, and this holds of the interval in its reply and the one in the datagram. -/
def Udp.EachInterval (settings : Settings) (secret : Bytes) (P : Int64 → Int32 → Prop) : Prop :=
  let rules := Rules.ofSettings settings secret
  ∀ (random : RandomSource) (s : State), random.Fair →
    Reachable rules (.ofSettings settings random) s →
    ∀ remote usePayloadIp now d r a, Request.decode d = .ok (.announce r) → r.event ≠ .stopped →
      (handle rules remote usePayloadIp now d s).1 = some (announceReply (isV4Remote remote) a) →
      ∃ reply, (announce rules (announcement remote r usePayloadIp) now s).1 =
        .ok (.announced reply) ∧ P reply.interval a.interval

section EachInterval

variable (settings : Settings) (secret : Bytes)

/-- An interval is the sum of what is configured and what is drawn, up to wrapping. -/
theorem toInt_interval_ofSettings (s : State) :
    (Announce.interval (.ofSettings settings secret) s).1.toInt =
      (settings.tracker.announceInterval.toNat +
        Announce.extra (.ofSettings settings secret) s : Int).bmod (2 ^ 64) := by
  rw [Announce.toInt_interval]
  show (settings.tracker.announceInterval.toInt64.toInt + _).bmod _ = _
  rw [toInt_toInt64_eq_bmod, Int.bmod_add_bmod]

theorem eachInterval_bmod : settings.EachInterval secret fun i =>
    ∃ n, settings.tracker.Allows n ∧ i.toInt = n.bmod (2 ^ 64) := by
  intro random s hfair hs q now reply h
  let rules := Rules.ofSettings settings secret
  obtain ⟨t, ht, hinterval⟩ := exists_interval_of_announced h
  have hextra := Announce.extra_lt rules (hfair.congr (ht.trans hs.source))
  change _ < max settings.tracker.announceFuzz.toNat 1 at hextra
  refine ⟨settings.tracker.announceInterval.toNat + Announce.extra rules t, ⟨?_, ?_⟩, ?_⟩
  · omega
  · rw [TrackerSettings.intervalEnd]
    omega
  · rw [hinterval, toInt_interval_ofSettings]

/-- Each interval that is allowed is drawn at the first announce. -/
theorem exists_random_of_allows {n : Int} (hn : settings.tracker.Allows n) :
    ∃ random : RandomSource, random.Fair ∧ ∀ q now reply,
      (announce (.ofSettings settings secret) q now (.ofSettings settings random)).1 =
        .ok (.announced reply) → reply.interval.toInt = n.bmod (2 ^ 64) := by
  obtain ⟨hlow, hhigh⟩ := hn
  rw [TrackerSettings.intervalEnd] at hhigh
  have hfuzz := settings.tracker.announceFuzz.toNat_lt
  let extra := UInt64.ofNat (n - settings.tracker.announceInterval.toNat).toNat
  have hextra : extra.toNat = (n - settings.tracker.announceInterval.toNat).toNat :=
    UInt64.toNat_ofNat_of_lt' (by rw [UInt64.size]; omega)
  refine ⟨.ofList [extra], RandomSource.fair_ofList _, ?_⟩
  intro q now reply h
  obtain ⟨t, ht, hinterval⟩ := exists_interval_of_announced h
  have hdrawn : Announce.extra (.ofSettings settings secret) t = extra.toNat := by
    refine Announce.extra_of_ofList _ ht ?_
    show _ < max settings.tracker.announceFuzz.toNat 1
    omega
  rw [hinterval, toInt_interval_ofSettings, hdrawn, hextra]
  congr 1
  omega

/-- The first announce of a peer that joins is answered. -/
theorem exists_reply (random : RandomSource) : ∃ reply,
    (announce (.ofSettings settings secret) (sampleAnnouncement .zero) 1
      (.ofSettings settings random)).1 = .ok (.announced reply) := by
  have hintent : Announce.intent (.ofSettings settings secret) (sampleAnnouncement .zero) 1 =
      .ok (.join .zero .zero _ settings.tracker.numwantDefault.toNat) := rfl
  rw [announce_of_join hintent]
  exact ⟨_, rfl⟩

theorem eachInterval_allows_iff :
    (settings.EachInterval secret fun i => settings.tracker.Allows i.toInt) ↔
      settings.tracker.intervalEnd ≤ 2 ^ 63 := by
  constructor
  · intro h
    have hlast := settings.tracker.allows_last
    obtain ⟨random, hfair, hbmod⟩ := exists_random_of_allows settings secret hlast
    obtain ⟨reply, hreply⟩ := exists_reply settings secret random
    have hallowed := h random _ hfair .refl _ _ reply hreply
    have hsame := hallowed.eq_of_bmod hlast (hbmod _ _ reply hreply)
    have hword := reply.interval.toInt_lt
    omega
  · intro hend random s hfair hs q now reply h
    obtain ⟨n, hn, hbmod⟩ := eachInterval_bmod settings secret random s hfair hs q now reply h
    have hsmall : n.bmod (2 ^ 64) = n := by
      obtain ⟨hlow, hhigh⟩ := hn
      exact Int.bmod_eq_of_le (by omega) (by omega)
    rwa [hbmod, hsmall]

/-- The first announce by datagram is answered as the service answers it. -/
theorem Udp.exists_reply (random : RandomSource) :
    let rules := Rules.ofSettings settings secret
    let start := State.ofSettings settings random
    let remote : Net.Endpoint := ⟨.v4 ⟨10, 0, 0, 1⟩, 6881, 0⟩
    let r := modestRequest rules remote
    ∃ a, (handle rules remote false 5 (Request.announce r).encode start).1 =
      some (announceReply (isV4Remote remote) a) := by
  intro rules start remote r
  have hport : r.port ≠ 0 := by show (6881 : UInt16) ≠ 0; decide
  obtain ⟨wanted, -, hhandle⟩ := handle_of_joining (r := r) nofun rfl hport nofun start
  rw [hhandle]
  exact ⟨_, rfl⟩

theorem Udp.eachInterval_bmod :
    Udp.EachInterval settings secret fun i j => j.toInt = i.toInt.bmod (2 ^ 32) := by
  intro random s hfair hs remote usePayloadIp now d r a hdecode hevent h
  obtain ⟨reply, hreply, hinterval⟩ := announced_of_handle hdecode hevent h
  refine ⟨reply, hreply, ?_⟩
  rw [hinterval]
  exact Int64.toInt_toInt32 reply.interval

theorem Udp.eachInterval_allows_iff :
    (Udp.EachInterval settings secret fun i j =>
      j.toInt = i.toInt ∧ settings.tracker.Allows i.toInt) ↔
      settings.tracker.intervalEnd ≤ 2 ^ 31 := by
  constructor
  · intro h
    have hlast := settings.tracker.allows_last
    obtain ⟨random, hfair, hbmod⟩ := exists_random_of_allows settings secret hlast
    obtain ⟨a, ha⟩ := Udp.exists_reply settings secret random
    have hdecode := Request.decode_announce (r := modestRequest (.ofSettings settings secret)
      ⟨.v4 ⟨10, 0, 0, 1⟩, 6881, 0⟩) nofun
    obtain ⟨reply, hreply, hsame, hallowed⟩ :=
      h random _ hfair .refl _ false 5 _ _ a hdecode nofun ha
    have hinterval := hallowed.eq_of_bmod hlast (hbmod _ _ reply hreply)
    have hword := a.interval.toInt_lt
    omega
  · intro hend random s hfair hs remote usePayloadIp now d r a hdecode hevent h
    obtain ⟨reply, hreply, hbmod⟩ :=
      Udp.eachInterval_bmod settings secret random s hfair hs remote usePayloadIp now d r a hdecode
        hevent h
    have hallowed := (PeerTracker.eachInterval_allows_iff settings secret).mpr (by omega) random s
      hfair hs _ _ reply hreply
    have hsmall : reply.interval.toInt.bmod (2 ^ 32) = reply.interval.toInt := by
      obtain ⟨hlow, hhigh⟩ := hallowed
      exact Int.bmod_eq_of_le (by omega) (by omega)
    exact ⟨reply, hreply, by rw [hbmod, hsmall], hallowed⟩

end EachInterval

/-- **Intervals are what was configured, unless that is too great for a signed word.** Take any
settings, and any state that a tracker with a fair source reaches. The interval of each reply is
a number of seconds from the configured interval up to less than the fuzz more, but as a signed
word, and an announce by datagram carries the lower half of it. All replies of the service have
an interval that may be announced, as a number, if and only if the greatest sum is below
`2 ^ 63`; and all datagrams carry such an interval, the same that the service has given, if and
only if it is below `2 ^ 31`. The check of the settings asks for neither. -/
theorem intervals_are_signed_words (settings : Settings) (secret : Bytes) :
    let t := settings.tracker
    (settings.EachInterval secret fun i => ∃ n, t.Allows n ∧ i.toInt = n.bmod (2 ^ 64)) ∧
      (Udp.EachInterval settings secret fun i j => j.toInt = i.toInt.bmod (2 ^ 32)) ∧
      ((settings.EachInterval secret fun i => t.Allows i.toInt) ↔ t.intervalEnd ≤ 2 ^ 63) ∧
      ((Udp.EachInterval settings secret fun i j => j.toInt = i.toInt ∧ t.Allows i.toInt) ↔
        t.intervalEnd ≤ 2 ^ 31) :=
  ⟨eachInterval_bmod settings secret, Udp.eachInterval_bmod settings secret,
    eachInterval_allows_iff settings secret, Udp.eachInterval_allows_iff settings secret⟩

/-- Settings whose interval is the least that is negative as a signed word, without fuzz. -/
def distantSettings : Settings :=
  { tracker := { announceInterval := 9223372036854775808, announceFuzz := 0 } }

/-- These settings pass their check, but the first reply has a negative interval, and the first
datagram one of zero. -/
theorem distant_interval_turns_negative :
    let rules := Rules.ofSettings distantSettings []
    let start := State.ofSettings distantSettings (.ofList [])
    let remote : Net.Endpoint := ⟨.v4 ⟨10, 0, 0, 1⟩, 6881, 0⟩
    let d := (Udp.Request.announce (Udp.modestRequest rules remote)).encode
    let peers : Bytes := [10, 0, 0, 1, 0x1A, 0xE1]
    distantSettings.check = .ok () ∧ (RandomSource.ofList []).Fair ∧
      (announce rules (sampleAnnouncement .zero) 1 start).1 = .ok (.announced
        ⟨-9223372036854775808, 1, 0, .compact ⟨peers, 600⟩ ⟨[], 1800⟩, none, false⟩) ∧
      (Udp.handle rules remote false 5 d start).1 = some (.announce4 ⟨7, 0, 0, 1, peers⟩) ∧
      ¬distantSettings.EachInterval [] fun i => distantSettings.tracker.Allows i.toInt := by
  intro rules start remote d peers
  have hcheck : distantSettings.check = .ok () := by decide +kernel
  have hfair := RandomSource.fair_ofList []
  have hreply : (announce rules (sampleAnnouncement .zero) 1 start).1 = .ok (.announced
      ⟨-9223372036854775808, 1, 0, .compact ⟨peers, 600⟩ ⟨[], 1800⟩, none, false⟩) := by
    decide +kernel
  refine ⟨hcheck, hfair, hreply, by decide +kernel, ?_⟩
  intro h
  obtain ⟨hlow, -⟩ := h _ _ hfair .refl _ _ _ hreply
  exact absurd hlow (by decide)

end PeerTracker
