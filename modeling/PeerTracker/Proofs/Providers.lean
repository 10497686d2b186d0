import PeerTracker.Proofs.Checks
import PeerTracker.Proofs.Stops

/-!
# Who is taken for a provider

An announce is looked up by the canonical form of its address, its port and no zone. The
settings keep an endpoint as it was read, and it is found only in the form in which announces
are looked up, `Endpoint.plain`. An entry in another form, the IPv6 form of an IPv4 address
or an address with a zone, passes the check of the settings and is never found.
-/

namespace PeerTracker

/-- The form in which an announce from this endpoint is looked up. -/
def Net.Endpoint.plain (e : Endpoint) : Endpoint := ⟨e.ip.canonical, e.port, 0⟩

/-- Some provider of the settings has this host, in either form of its address, and port. -/
def Settings.Names (s : Settings) (ip : Net.IpAddr) (port : UInt16) : Prop :=
  ∃ text ∈ s.tracker.baselineProviders, ∃ e, Net.Endpoint.ofText? text = some e ∧
    Udp.SameOrigin e ⟨ip, port, 0⟩

theorem Settings.mem_providers {s : Settings} {e : Net.Endpoint} :
    e ∈ s.providers ↔ ∃ text ∈ s.tracker.baselineProviders, Net.Endpoint.ofText? text = some e :=
  List.mem_filterMap

theorem Settings.names_iff {s : Settings} {ip : Net.IpAddr} {port : UInt16} :
    s.Names ip port ↔ ∃ e ∈ s.providers, e.plain = ⟨ip.canonical, port, 0⟩ := by
  have horigin : ∀ e : Net.Endpoint,
      Udp.SameOrigin e ⟨ip, port, 0⟩ ↔ e.plain = ⟨ip.canonical, port, 0⟩ := by
    intro e
    rw [Udp.SameOrigin, Net.Endpoint.plain, Net.Endpoint.mk.injEq]
    simp
  constructor
  · rintro ⟨text, htext, e, he, hsame⟩
    exact ⟨e, mem_providers.mpr ⟨text, htext, he⟩, (horigin e).mp hsame⟩
  · rintro ⟨e, he, hplain⟩
    obtain ⟨text, htext, hread⟩ := mem_providers.mp he
    exact ⟨text, htext, e, hread, (horigin e).mpr hplain⟩

namespace Announce

/-- The announce is that of a provider, to the store and to the one who picks a hint. -/
def Intent.provider : Intent → Bool
  | stop _ _ provider => provider
  | join _ _ u _ => u.provider

variable {r : Rules} {q : Announcement} {now : Int64} {i : Intent} {port : UInt16}

theorem provider_of_intent (hport : port? q.port = some port) (h : intent r q now = .ok i) :
    i.provider = true ↔ ⟨q.ip.canonical, port, 0⟩ ∈ r.providers := by
  have hflag : i.provider = fromProvider r q := by
    obtain ⟨hash, id, -, -, ⟨-, rfl⟩ | ⟨-, port, wanted, -, -, rfl⟩⟩ := intent_cases h <;> rfl
  rw [hflag, fromProvider, hport, Option.any_some, Rules.isProvider_iff]

end Announce

/-- **A provider is recognised in one form only.** Whatever the settings, an announce that is
understood and has a port is taken for a provider's if and only if one of the texts is read
as the canonical address of its sender with that port and no zone. Then some provider has
this host and port; and the other way round, every announce of the host and port of some
provider is taken for a provider's just if every endpoint of the settings that has a port is
also listed in the form in which announces are looked up. -/
theorem providers_are_known_in_plain_form (s : Settings) (secret : Bytes) :
    let rules := Rules.ofSettings s secret
    (∀ q now i port, Announce.port? q.port = some port → Announce.intent rules q now = .ok i →
      (i.provider = true ↔ ∃ text ∈ s.tracker.baselineProviders,
        Net.Endpoint.ofText? text = some ⟨q.ip.canonical, port, 0⟩) ∧
      (i.provider = true → s.Names q.ip port)) ∧
      ((∀ q now i port, Announce.port? q.port = some port → Announce.intent rules q now = .ok i →
        (i.provider = true ↔ s.Names q.ip port)) ↔
        ∀ e ∈ s.providers, e.port ≠ 0 → e.plain ∈ s.providers) := by
  intro rules
  have hknown : ∀ q now i port, Announce.port? q.port = some port →
      Announce.intent rules q now = .ok i →
      (i.provider = true ↔ ⟨q.ip.canonical, port, 0⟩ ∈ s.providers) :=
    fun q now i port hport hintent => Announce.provider_of_intent hport hintent
  have hnames : ∀ {ip : Net.IpAddr} {port : UInt16},
      ⟨ip.canonical, port, 0⟩ ∈ s.providers → s.Names ip port := by
    intro ip port hmem
    refine Settings.names_iff.mpr ⟨_, hmem, ?_⟩
    rw [Net.Endpoint.plain, ip.canonical_canonical]
  refine ⟨fun q now i port hport hintent => ?_, ?_, ?_⟩
  · have hiff := hknown q now i port hport hintent
    exact ⟨hiff.trans Settings.mem_providers, fun h => hnames (hiff.mp h)⟩
  · intro hall e he hport
    -- the stop of any peer from that endpoint
    let q : Announcement :=
      { sampleAnnouncement .zero with ip := e.ip, port := Int64.ofNat e.port.toNat, event := .stopped }
    have hintent : Announce.intent rules q 0 =
        .ok (.stop .zero .zero (Announce.fromProvider rules q)) :=
      Announce.intent_eq_stop_iff.mpr ⟨rfl, rfl, rfl, rfl⟩
    have hq := Announce.port?_ofNat hport
    refine (hknown q 0 _ _ hq hintent).mp ((hall q 0 _ _ hq hintent).mpr ?_)
    exact Settings.names_iff.mpr ⟨e, he, rfl⟩
  · intro hplain q now i port hport hintent
    rw [hknown q now i port hport hintent]
    refine ⟨hnames, fun h => ?_⟩
    obtain ⟨e, he, heq⟩ := Settings.names_iff.mp h
    have hne : e.port ≠ 0 := by
      rw [show e.port = port from congrArg Net.Endpoint.port heq]
      exact Announce.port?_ne_zero hport
    exact heq ▸ hplain e he hne

/-- A provider under the IPv6 form of its address, and one with a zone. -/
def unplainSettings : Settings where
  tracker := { baselineProviders := ["[::ffff:10.0.0.1]:6881", "[fe80::1%3]:6881"] }

/-- Both pass the check, and the announces of both are taken for those of other peers. -/
theorem unplain_providers_are_missed :
    let rules := Rules.ofSettings unplainSettings []
    let start := State.ofSettings unplainSettings (.ofList [])
    unplainSettings.check = .ok () ∧
      ∀ ip ∈ [Net.IpAddr.v4 ⟨10, 0, 0, 1⟩, .v6 ⟨0xFE80, 0, 0, 0, 0, 0, 0, 1⟩],
        let q := { sampleAnnouncement .zero with ip := ip }
        unplainSettings.Names q.ip 6881 ∧ Announce.port? q.port = some 6881 ∧
          (∃ i, Announce.intent rules q 1 = .ok i ∧ i.provider = false) ∧
          ((Demand.announce q 1 true).exec rules start).recordAs .provider .zero .zero = none := by
  intro rules start
  have hintent : ∀ q, (Announce.intent rules q 1).toOption.map Announce.Intent.provider =
      some false → ∃ i, Announce.intent rules q 1 = .ok i ∧ i.provider = false := by
    intro q hq
    cases h : Announce.intent rules q 1 with
    | error e => rw [h] at hq; cases hq
    | ok i => rw [h] at hq; exact ⟨i, rfl, Option.some.inj hq⟩
  refine ⟨by decide +kernel, ?_⟩
  intro ip hip q
  rw [List.mem_cons, List.mem_singleton] at hip
  rcases hip with rfl | rfl
  · refine ⟨Settings.names_iff.mpr ⟨⟨.v6 ⟨0, 0, 0, 0, 0, 0xFFFF, 0x0A00, 0x0001⟩, 6881, 0⟩, ?_, rfl⟩,
      by decide, hintent q ?_, ?_⟩ <;> decide +kernel
  · refine ⟨Settings.names_iff.mpr ⟨⟨.v6 ⟨0xFE80, 0, 0, 0, 0, 0, 0, 1⟩, 6881, 3⟩, ?_, rfl⟩,
      by decide, hintent q ?_, ?_⟩ <;> decide +kernel

end PeerTracker
