import Mathlib.Data.List.Forall2
import PeerTracker.Announce
import PeerTracker.Proofs.ConnectionIds

/-!
# Settings that pass their check

`Settings.Valid` says what settings have to be like, without an order in which it is looked
at. The check accepts just these (`Settings.check_eq_ok_iff`). The rest of a tracker reads
the same lists again and does not check anything: it takes the lifetime of the first enabled
listener and passes over providers that cannot be read. For settings that were accepted the
first listener is as good as any, and nothing is passed over.
-/

namespace PeerTracker

/-! ## Checks in a row -/

section Checks

variable {ε α : Type}

theorem ite_error_eq_ok_iff {c : Prop} [Decidable c] {e : ε} {rest : Except ε α} {x : α} :
    (if c then .error e else rest) = .ok x ↔ ¬c ∧ rest = .ok x := by
  by_cases h : c <;> simp [h]

theorem bind_eq_ok_iff {β : Type} {check : Except ε β} {rest : Except ε α} {x : α} :
    (check >>= fun _ => rest) = .ok x ↔ (∃ y, check = .ok y) ∧ rest = .ok x := by
  cases check with
  | error e => exact ⟨nofun, fun ⟨⟨_, h⟩, _⟩ => nomatch h⟩
  | ok y => exact ⟨fun h => ⟨⟨y, rfl⟩, h⟩, fun h => h.2⟩

end Checks

namespace Settings

/-! ## What is accepted -/

/-- The text names an address and a port. -/
def NamesEndpoint (text : String) : Prop := ∃ e, Net.Endpoint.ofText? text = some e

/-- What settings have to be like. Listeners that are disabled may be like anything. -/
structure Valid (s : Settings) : Prop where
  limit : 1 ≤ s.tracker.numwantLimit
  default_le : s.tracker.numwantDefault ≤ s.tracker.numwantLimit
  timeout : s.tracker.peersTimeout ≠ 0
  cleanupInterval : s.tracker.peersCleanupInterval ≠ 0
  providers : ∀ text ∈ s.tracker.baselineProviders, NamesEndpoint text
  udp : ∀ u ∈ s.udp, u.enabled = true → NamesEndpoint u.bindAddress
  lifetime : ∃ lifetime ≠ 0, ∀ u ∈ s.udp, u.enabled = true → u.connectionIdLifetime = lifetime
  http : ∀ h ∈ s.http, h.enabled = true → NamesEndpoint h.bindAddress
  backup : s.backup.enabled = true → s.backup.path ≠ ""

theorem exists_checkAddress_iff {name value : String} :
    (∃ e, checkAddress name value = .ok e) ↔ NamesEndpoint value := by
  unfold checkAddress NamesEndpoint
  cases Net.Endpoint.ofText? value <;> simp

theorem checkProviders_eq_ok_iff {texts : List String} :
    checkProviders texts = .ok () ↔ ∀ text ∈ texts, NamesEndpoint text := by
  induction texts with
  | nil => simp [checkProviders]
  | cons text texts ih =>
      rw [checkProviders, bind_eq_ok_iff, exists_checkAddress_iff, ih, List.forall_mem_cons]

theorem checkHttp_eq_ok_iff {hs : List HttpSettings} :
    checkHttp hs = .ok () ↔ ∀ h ∈ hs, NamesEndpoint h.bindAddress := by
  induction hs with
  | nil => simp [checkHttp]
  | cons h hs ih =>
      rw [checkHttp, bind_eq_ok_iff, exists_checkAddress_iff, ih, List.forall_mem_cons]

theorem checkUdp_cons_eq_ok_iff {lifetime : Option UInt64} {u : UdpSettings}
    {us : List UdpSettings} :
    checkUdp lifetime (u :: us) = .ok () ↔
      NamesEndpoint u.bindAddress ∧ u.connectionIdLifetime ≠ 0 ∧
        (∀ l, lifetime = some l → u.connectionIdLifetime = l) ∧
        checkUdp (some u.connectionIdLifetime) us = .ok () := by
  rw [checkUdp, bind_eq_ok_iff, exists_checkAddress_iff]
  refine and_congr_right fun _ => ?_
  show (if u.connectionIdLifetime = 0 then Except.error _ else if _ then Except.error _ else _)
    = _ ↔ _
  rw [ite_error_eq_ok_iff, ite_error_eq_ok_iff, not_not]
  refine and_congr_right fun _ => ?_
  cases lifetime with
  | none => simp
  | some l =>
      constructor
      · rintro ⟨rfl, h⟩
        exact ⟨fun _ hl => Option.some.inj hl, h⟩
      · rintro ⟨hl, h⟩
        obtain rfl := hl l rfl
        exact ⟨rfl, h⟩

/-- Behind a listener, all others have to have its lifetime. -/
theorem checkUdp_some_eq_ok_iff {lifetime : UInt64} (hlifetime : lifetime ≠ 0)
    {us : List UdpSettings} :
    checkUdp (some lifetime) us = .ok () ↔
      ∀ u ∈ us, NamesEndpoint u.bindAddress ∧ u.connectionIdLifetime = lifetime := by
  induction us with
  | nil => simp [checkUdp]
  | cons u us ih =>
      rw [checkUdp_cons_eq_ok_iff, List.forall_mem_cons, ← ih]
      constructor
      · rintro ⟨haddress, -, hsame, hrest⟩
        have hu := hsame lifetime rfl
        exact ⟨⟨haddress, hu⟩, hu ▸ hrest⟩
      · rintro ⟨⟨haddress, rfl⟩, hrest⟩
        exact ⟨haddress, hlifetime, fun _ hl => Option.some.inj hl, hrest⟩

theorem checkUdp_none_eq_ok_iff {us : List UdpSettings} :
    checkUdp none us = .ok () ↔
      (∀ u ∈ us, NamesEndpoint u.bindAddress) ∧
        ∃ lifetime ≠ 0, ∀ u ∈ us, u.connectionIdLifetime = lifetime := by
  cases us with
  | nil => exact ⟨fun _ => ⟨nofun, 1, by decide, nofun⟩, fun _ => rfl⟩
  | cons u us =>
      rw [checkUdp_cons_eq_ok_iff]
      constructor
      · rintro ⟨haddress, hpos, -, hrest⟩
        rw [checkUdp_some_eq_ok_iff hpos] at hrest
        refine ⟨List.forall_mem_cons.mpr ⟨haddress, fun v hv => (hrest v hv).1⟩, _, hpos, ?_⟩
        exact List.forall_mem_cons.mpr ⟨rfl, fun v hv => (hrest v hv).2⟩
      · rintro ⟨haddresses, lifetime, hpos, hsame⟩
        obtain rfl := hsame u List.mem_cons_self
        refine ⟨haddresses u List.mem_cons_self, hpos, nofun, ?_⟩
        rw [checkUdp_some_eq_ok_iff hpos]
        intro v hv
        exact ⟨haddresses v (List.mem_cons_of_mem u hv), hsame v (List.mem_cons_of_mem u hv)⟩

/-- The check accepts valid settings and no others. -/
theorem check_eq_ok_iff {s : Settings} : s.check = .ok () ↔ s.Valid := by
  have hbackup : (if (s.backup.enabled && s.backup.path = "") = true then
      Except.error SettingsError.emptyBackupPath else .ok ()) = .ok () ↔
        (s.backup.enabled = true → s.backup.path ≠ "") := by
    rw [ite_error_eq_ok_iff]
    simp
  have hunit : ∀ {c : Except SettingsError Unit}, (∃ y, c = .ok y) ↔ c = .ok () :=
    ⟨fun ⟨_, h⟩ => h, fun h => ⟨(), h⟩⟩
  rw [check, ite_error_eq_ok_iff, ite_error_eq_ok_iff, ite_error_eq_ok_iff, ite_error_eq_ok_iff,
    bind_eq_ok_iff, bind_eq_ok_iff, bind_eq_ok_iff, hunit, hunit, hunit, checkProviders_eq_ok_iff,
    checkUdp_none_eq_ok_iff, checkHttp_eq_ok_iff]
  simp only [UInt32.not_lt, List.mem_filter, and_imp]
  constructor
  · rintro ⟨hlimit, hdefault, htimeout, hcleanup, hproviders, ⟨hudp, hlifetime⟩, hhttp, hpath⟩
    exact ⟨hlimit, hdefault, htimeout, hcleanup, hproviders, hudp, hlifetime, hhttp,
      hbackup.mp hpath⟩
  · intro h
    exact ⟨h.limit, h.default_le, h.timeout, h.cleanupInterval, h.providers, ⟨h.udp, h.lifetime⟩,
      h.http, hbackup.mpr h.backup⟩

theorem default_le_limit {settings : Settings} (h : settings.check = .ok ()) :
    settings.tracker.numwantDefault ≤ settings.tracker.numwantLimit :=
  (check_eq_ok_iff.mp h).default_le

/-! ## What a tracker takes from them -/

/-- The first enabled listener has the lifetime of every other. -/
theorem Valid.connectionIdLifetime_eq {s : Settings} (h : s.Valid) {u : UdpSettings}
    (hu : u ∈ s.udp) (henabled : u.enabled = true) :
    s.connectionIdLifetime = u.connectionIdLifetime := by
  obtain ⟨lifetime, -, hsame⟩ := h.lifetime
  unfold connectionIdLifetime
  cases hfind : s.udp.find? (·.enabled) with
  | none => exact absurd henabled (List.find?_eq_none.mp hfind u hu)
  | some first =>
      have hfirst := hsame first (List.mem_of_find?_eq_some hfind) (List.find?_some hfind)
      exact hfirst.trans (hsame u hu henabled).symm

theorem Valid.lifetime_ne_zero {s : Settings} (h : s.Valid) {u : UdpSettings} (hu : u ∈ s.udp)
    (henabled : u.enabled = true) : u.connectionIdLifetime ≠ 0 := by
  obtain ⟨lifetime, hpos, hsame⟩ := h.lifetime
  rw [hsame u hu henabled]
  exact hpos

/-- No text is passed over. -/
theorem Valid.forall₂_providers {s : Settings} (h : s.Valid) :
    List.Forall₂ (fun text e => Net.Endpoint.ofText? text = some e) s.tracker.baselineProviders
      s.providers := by
  have hall : ∀ texts : List String, (∀ text ∈ texts, NamesEndpoint text) →
      List.Forall₂ (fun text e => Net.Endpoint.ofText? text = some e) texts
        (texts.filterMap Net.Endpoint.ofText?) := by
    intro texts htexts
    induction texts with
    | nil => exact .nil
    | cons text texts ih =>
        obtain ⟨⟨e, he⟩, hrest⟩ := List.forall_mem_cons.mp htexts
        rw [List.filterMap_cons_some he]
        exact .cons he (ih hrest)
  exact hall _ h.providers

end Settings

/-- The key counts time in buckets of so many seconds, when it issues an id and when it
checks one. -/
structure Udp.ConnectionKey.CountsBy (key : ConnectionKey) (seconds : Nat) : Prop where
  lifetime : key.lifetime = seconds
  issue : ∀ remote now, key.issue remote now = key.derive remote (now.toInt.toNat / seconds)
  verify : ∀ id remote now, key.verify id remote now = true ↔
    ∃ n, (n = now.toInt.toNat / seconds ∨ n + 1 = now.toInt.toNat / seconds) ∧
      id = key.derive remote n

theorem Udp.ConnectionKey.countsBy_lifetime (key : ConnectionKey) : key.CountsBy key.lifetime :=
  ⟨rfl, fun _ _ => rfl, key.verify_iff⟩

namespace Announce

theorem resolveWanted_le {r : Rules} (hdefault : r.numwantDefault ≤ r.numwantLimit)
    {n? : Option Int64} {wanted : Nat} (h : resolveWanted r n? = .ok wanted) :
    wanted ≤ r.numwantLimit := by
  cases n? with
  | none =>
      cases h
      exact hdefault
  | some n =>
      simp only [resolveWanted] at h
      split at h
      · cases h
      · cases h
        exact Nat.min_le_right _ _

/-- Any number is accepted but a negative one, and so is none at all. -/
theorem exists_resolveWanted_iff {r : Rules} {n? : Option Int64} :
    (∃ wanted, resolveWanted r n? = .ok wanted) ↔ ∀ n, n? = some n → 0 ≤ n.toInt := by
  cases n? with
  | none => exact ⟨fun _ => nofun, fun _ => ⟨_, rfl⟩⟩
  | some n =>
      unfold resolveWanted
      by_cases hn : n.toInt < 0
      · simp [hn]
      · simp [hn, Int.not_lt.mp hn]

end Announce

/-- Whatever is wanted, it is no more than the limit of the settings. -/
theorem Settings.Valid.wanted_le {s : Settings} (h : s.Valid) {secret : Bytes} {n? : Option Int64}
    {wanted : Nat} (hwanted : Announce.resolveWanted (.ofSettings s secret) n? = .ok wanted) :
    wanted ≤ s.tracker.numwantLimit.toNat :=
  Announce.resolveWanted_le (UInt32.le_iff_toNat_le.mp h.default_le) hwanted

/-- **What passes the check can be relied upon.** The check accepts settings if and only if
they are valid: the limit on wanted peers is positive and the default within it, peers time
out and are swept after some time, every provider and every enabled listener has the text of
an endpoint, all enabled listeners for datagrams have one lifetime of connection ids, which
is not zero, and an enabled backup has a path. A tracker with such settings issues and checks
ids by the lifetime of every enabled listener, knows one endpoint for each text, and however
many peers are wanted, if that is accepted, takes it for the limit at most. -/
theorem accepted_settings_are_relied_upon (s : Settings) (secret : Bytes) :
    (s.check = .ok () ↔ s.Valid) ∧
      (s.check = .ok () →
        let rules := Rules.ofSettings s secret
        (∀ u ∈ s.udp, u.enabled = true → rules.key.CountsBy u.connectionIdLifetime.toNat) ∧
          List.Forall₂ (fun text e => Net.Endpoint.ofText? text = some e)
            s.tracker.baselineProviders rules.providers ∧
          ∀ n?, ((∃ wanted, Announce.resolveWanted rules n? = .ok wanted) ↔
              ∀ n, n? = some n → 0 ≤ n.toInt) ∧
            ∀ wanted, Announce.resolveWanted rules n? = .ok wanted →
              wanted ≤ s.tracker.numwantLimit.toNat) := by
  refine ⟨Settings.check_eq_ok_iff, fun hcheck => ?_⟩
  have hvalid := Settings.check_eq_ok_iff.mp hcheck
  intro rules
  refine ⟨fun u hu henabled => ?_, hvalid.forall₂_providers, fun n? =>
    ⟨Announce.exists_resolveWanted_iff, fun wanted => hvalid.wanted_le⟩⟩
  have hpos : u.connectionIdLifetime.toNat ≠ 0 := fun h =>
    hvalid.lifetime_ne_zero hu henabled (UInt64.toNat_inj.mp h)
  have hlifetime : rules.key.lifetime = u.connectionIdLifetime.toNat := by
    show max s.connectionIdLifetime.toNat 1 = _
    rw [hvalid.connectionIdLifetime_eq hu henabled]
    omega
  exact hlifetime ▸ rules.key.countsBy_lifetime

/-- Two listeners of one lifetime, and one that is disabled and of which nothing is right. -/
def sampleListeners : Settings where
  tracker := { baselineProviders := ["10.0.0.1:6881", "[2001:db8::1]:7000"] }
  udp := [⟨false, "nowhere", 1, 1, 1, 1, 1, true, 0, false⟩,
    { connectionIdLifetime := 60 },
    { bindAddress := "[::]:6969", connectionIdLifetime := 60 }]

theorem accepted_settings_are_relied_upon_listeners :
    let rules := Rules.ofSettings sampleListeners []
    sampleListeners.check = .ok () ∧ rules.key.CountsBy 60 ∧ rules.providers.length = 2 ∧
      ∀ wanted, Announce.resolveWanted rules none = .ok wanted → wanted ≤ 100 := by
  intro rules
  have hcheck : sampleListeners.check = .ok () := by decide +kernel
  obtain ⟨hcounts, hproviders, hwanted⟩ :=
    (accepted_settings_are_relied_upon sampleListeners []).2 hcheck
  have hlistener : ({ connectionIdLifetime := 60 } : UdpSettings) ∈ sampleListeners.udp := by
    decide
  exact ⟨hcheck, hcounts _ hlistener rfl, hproviders.length_eq.symm, (hwanted none).2⟩

end PeerTracker
