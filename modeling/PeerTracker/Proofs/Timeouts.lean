import PeerTracker.Proofs.Records
import PeerTracker.Proofs.Sweeps

/-!
# Timeouts

A timeout is configured as an unsigned word and compared as a signed one. Up to the
greatest signed word the number stays the same, and a sweep removes exactly the peers of
which nothing was heard for longer than that. The check of the settings lets greater ones
through as well. Those turn negative, so that a sweep takes even a peer that announced in
the same second (`huge_timeout_removes_at_once`).
-/

namespace PeerTracker

/-- The number that an unsigned word is as a signed one. -/
def signedWord (n : Nat) : Int := if n < 2 ^ 63 then n else n - 2 ^ 64

theorem toInt_toInt64 (n : UInt64) : n.toInt64.toInt = signedWord n.toNat := by
  have hword : n.toInt64.toInt = n.toBitVec.toInt := rfl
  have hnat : n.toBitVec.toNat = n.toNat := rfl
  rw [hword, BitVec.toInt_eq_toNat_cond, hnat, signedWord]
  split <;> split <;> omega

/-- A time between the epoch and `2 ^ 62` seconds after it. -/
def InClock (time : Int64) : Prop := 0 ≤ time.toInt ∧ time.toInt ≤ 2 ^ 62

instance : DecidablePred InClock := fun _ => inferInstanceAs (Decidable (_ ∧ _))

/-- From `s` to `s'` the peers go of which nothing was heard for more than `limit` seconds,
and no others; a record that stays is not changed. -/
def State.Expires (limit : Int) (now : Int64) (s s' : State) : Prop :=
  ∀ hash id, s'.record? hash id =
    (s.record? hash id).filter fun p => now.toInt - p.lastSeen.toInt ≤ limit

theorem Peer.dated_of_inClock {now : Int64} {p : Peer} (hnow : InClock now)
    (hseen : InClock p.lastSeen) : p.Dated now := by
  obtain ⟨hnow, hnow'⟩ := hnow
  obtain ⟨hseen, hseen'⟩ := hseen
  constructor <;> omega

theorem sweep_expires (r : Rules) {now : Int64} {s : State} (hnow : InClock now)
    (hseen : ∀ p ∈ s.records, InClock p.lastSeen) :
    s.Expires r.timeout.toInt now (sweep r now s).2 := by
  intro hash id
  show (Store.trim r.store s now r.timeout).2.record? hash id = _
  rw [Store.record?_trim]
  cases hp : s.record? hash id with
  | none => rfl
  | some p =>
      obtain ⟨w, hw, hget⟩ := Option.bind_eq_some_iff.mp hp
      have hdated : p.Dated now := Peer.dated_of_inClock hnow
        (hseen p (State.mem_records hw (Table.mem_values_of_get? hget)))
      rw [Option.filter_some, Option.filter_some, Peer.isExpired_eq hdated, Bool.not_not]
      rfl

/-- **A sweep removes exactly the peers that are older than the timeout, unless the timeout
is so great that it turns negative.** Let the clock and the times at which peers were last
heard of lie between 0 and `2 ^ 62`. With a timeout below `2 ^ 63` a sweep removes a peer
if and only if it is more seconds old than was configured, as numbers, and one that
announced in the second of the sweep stays. A timeout of `2 ^ 63` or more passes the check
of the settings just so, but a sweep removes by it the peers that are older than a negative
number, and among them each that announced in the second of the sweep. -/
theorem sweep_obeys_signed_timeout (settings : Settings) (secret : Bytes) (s : State)
    (now : Int64) (hnow : InClock now) (hseen : ∀ p ∈ s.records, InClock p.lastSeen) :
    let timeout := settings.tracker.peersTimeout.toNat
    let s' := (sweep (.ofSettings settings secret) now s).2
    (timeout < 2 ^ 63 → s.Expires timeout now s') ∧
      (2 ^ 63 ≤ timeout → s.Expires (timeout - 2 ^ 64) now s') ∧
      ∀ hash id p, s.record? hash id = some p → p.lastSeen = now →
        s'.record? hash id = if timeout < 2 ^ 63 then some p else none := by
  intro timeout s'
  have hexpires : s.Expires (signedWord timeout) now s' := by
    rw [← toInt_toInt64]
    exact sweep_expires (.ofSettings settings secret) hnow hseen
  refine ⟨?_, ?_, ?_⟩
  · intro hsmall
    rwa [signedWord, if_pos hsmall] at hexpires
  · intro hhuge
    rwa [signedWord, if_neg (Nat.not_lt.mpr hhuge)] at hexpires
  · rintro hash id p hp rfl
    rw [hexpires hash id, hp, Option.filter_some, Int.sub_self, signedWord]
    have hword : timeout < 2 ^ 64 := settings.tracker.peersTimeout.toNat_lt
    by_cases hsmall : timeout < 2 ^ 63
    · rw [if_pos hsmall, if_pos hsmall, if_pos (by simp)]
    · rw [if_neg hsmall, if_neg hsmall, if_neg (by simp; omega)]

/-- Settings whose timeout is the greatest unsigned word, and otherwise as they come. -/
def endlessSettings : Settings := { tracker := { peersTimeout := 18446744073709551615 } }

/-- After an hour of silence a peer goes with the timeout that the settings come with, and
after half an hour it stays. -/
theorem sweep_obeys_signed_timeout_default :
    let settings : Settings := {}
    let rules := Rules.ofSettings settings []
    let s := (Demand.announce (sampleAnnouncement .zero) 1 true).exec rules
      (.ofSettings settings (.ofList []))
    settings.check = .ok () ∧ (∀ p ∈ s.records, InClock p.lastSeen) ∧
      (s.record? .zero .zero).isSome = true ∧
      (sweep rules 1801 s).2.record? .zero .zero = s.record? .zero .zero ∧
      (sweep rules 3601 s).2.record? .zero .zero = none := by
  intro settings rules s
  have hcheck : settings.check = .ok () := by decide +kernel
  have hseen : ∀ p ∈ s.records, InClock p.lastSeen := by decide +kernel
  have hsome : (s.record? .zero .zero).isSome = true := by decide +kernel
  obtain ⟨hhalf, -, -⟩ := sweep_obeys_signed_timeout settings [] s 1801 (by decide) hseen
  obtain ⟨hhour, -, -⟩ := sweep_obeys_signed_timeout settings [] s 3601 (by decide) hseen
  have hage : ∀ p, s.record? .zero .zero = some p → p.lastSeen = 1 := by decide +kernel
  refine ⟨hcheck, hseen, hsome, ?_, ?_⟩
  · obtain ⟨p, hp⟩ := Option.isSome_iff_exists.mp hsome
    rw [hhalf (by decide) .zero .zero, hp, Option.filter_some, hage p hp]
    rfl
  · obtain ⟨p, hp⟩ := Option.isSome_iff_exists.mp hsome
    rw [hhour (by decide) .zero .zero, hp, Option.filter_some, hage p hp]
    rfl

/-- With these settings, which pass their check, a sweep removes a peer in the second in
which it announced, although the timeout is more seconds than there have been. -/
theorem huge_timeout_removes_at_once :
    let rules := Rules.ofSettings endlessSettings []
    let start := State.ofSettings endlessSettings (.ofList [])
    let s := (Demand.announce (sampleAnnouncement .zero) 1 true).exec rules start
    endlessSettings.check = .ok () ∧ Reachable rules start s ∧
      (∀ p ∈ s.records, InClock p.lastSeen) ∧
      (s.record? .zero .zero).map Peer.lastSeen = some 1 ∧
      (sweep rules 1 s).2.record? .zero .zero = none ∧
      ¬s.Expires endlessSettings.tracker.peersTimeout.toNat 1 (sweep rules 1 s).2 := by
  intro rules start s
  have hcheck : endlessSettings.check = .ok () := by decide +kernel
  have hs : Reachable rules start s := .serve _ .refl trivial
  have hseen : ∀ p ∈ s.records, InClock p.lastSeen := by decide +kernel
  have hlast : (s.record? .zero .zero).map Peer.lastSeen = some 1 := by decide +kernel
  have hgone : (sweep rules 1 s).2.record? .zero .zero = none := by decide +kernel
  refine ⟨hcheck, hs, hseen, hlast, hgone, ?_⟩
  intro hexpires
  obtain ⟨p, hp, hseen⟩ := Option.map_eq_some_iff.mp hlast
  have hkept := hexpires .zero .zero
  rw [hgone, hp, Option.filter_some, hseen] at hkept
  cases hkept

end PeerTracker
