import PeerTracker.Proofs.Listings

/-!
# Announces

What an announce asks for is settled by the rules alone, before the store is touched
(`Announce.intent`). A peer that stops is dropped, one that joins is saved, and nothing
else happens to the store: the rest of an announce changes counters and buffers only
(`announce_performs`). The reply to a peer that joins is gathered from the store as its
save has left it.
-/

namespace PeerTracker

theorem Identifier.ofBytes?_eq_some_iff {bs : Bytes} {i : Identifier} :
    ofBytes? bs = some i ↔ bs = i.bytes :=
  ⟨fun h => (bytes_of_ofBytes? h).symm, fun h => h ▸ ofBytes?_bytes i⟩

theorem Identifier.bytes_inj {i j : Identifier} (h : i.bytes = j.bytes) : i = j := by
  cases i
  cases j
  cases h
  rfl

/-! ## Performing actions -/

/-- From `s` to `s'` the store changes by these actions, and by nothing else. -/
def State.Performs (rules : StoreRules) (as : List Action) (s s' : State) : Prop :=
  ∃ t, s.Steady t ∧ (as.foldl (Action.exec rules) t).Steady s'

namespace State.Performs

variable {rules : StoreRules} {as : List Action} {s t s' : State}

theorem idle (h : s.Steady s') : Performs rules [] s s' := ⟨s, .refl s, h⟩

theorem trans (h : Performs rules as s t) (h' : t.Steady s') : Performs rules as s s' := by
  obtain ⟨u, hu, ht⟩ := h
  exact ⟨u, hu, ht.trans h'⟩

/-- What each of the actions keeps, and whatever leaves the store alone, is kept. -/
theorem keeps {P : State → Prop} (hsteady : ∀ s t, s.Steady t → P s → P t)
    (hexec : ∀ s, ∀ a ∈ as, P s → P (a.exec rules s)) (h : Performs rules as s s') (hs : P s) :
    P s' := by
  obtain ⟨t, ht, hend⟩ := h
  refine hsteady _ _ hend ?_
  have hstart : P t := hsteady s t ht hs
  clear ht hend
  induction as generalizing t with
  | nil => exact hstart
  | cons a as ih =>
      refine ih (fun s b hb => hexec s b (List.mem_cons_of_mem _ hb)) (a.exec rules t) ?_
      exact hexec t a List.mem_cons_self hstart

theorem restored {limit : Nat} (h : Performs rules as s s') (hs : s.pools.Restored limit) :
    s'.pools.Restored limit :=
  h.keeps (P := fun s => s.pools.Restored limit) (fun _ _ hsteady => hsteady.restored limit)
    (fun _ a _ hs => a.pools_exec (Pools.peerStable_restored limit) rules hs) hs

end State.Performs

/-- A refusal is counted apart from peers. -/
theorem Refusal.counter_ne_kind (e : Refusal) (complete : Bool) :
    e.counter ≠ Stats.kind complete := by
  unfold counter
  cases complete <;> split <;> decide

theorem Rules.isProvider_iff {r : Rules} {ip : Net.IpAddr} {port : UInt16} :
    r.isProvider ip port = true ↔ ⟨ip, port, 0⟩ ∈ r.providers := by
  rw [isProvider, List.contains_iff_mem]

namespace Announce

/-! ## Ports -/

theorem port?_ne_zero {n : Int64} {port : UInt16} (h : port? n = some port) :
    port ≠ 0 := by
  unfold port? at h
  split at h
  · next hrange =>
    obtain ⟨hpos, hlt⟩ := hrange
    cases h
    intro hzero
    have hnat := congrArg UInt16.toNat hzero
    rw [UInt16.toNat_ofNat_of_lt' (by omega)] at hnat
    change n.toInt.toNat = 0 at hnat
    omega
  · cases h

/-- A port that was announced as a number is that port again. -/
theorem port?_ofNat {port : UInt16} (h : port ≠ 0) :
    port? (Int64.ofNat port.toNat) = some port := by
  have hlt : port.toNat < UInt16.size := port.toNat_lt
  have hpos : port.toNat ≠ 0 := fun hzero => h (UInt16.toNat_inj.mp hzero)
  have hword : (Int64.ofNat port.toNat).toInt = port.toNat :=
    Int64.toInt_ofNat_of_lt (Nat.lt_trans hlt (by decide))
  rw [port?, hword, if_pos (by omega), Int.toNat_natCast, UInt16.ofNat_toNat]

/-! ## What is asked for -/

section Intent

variable {r : Rules} {q : Announcement} {now : Int64} {hash : InfoHash} {id : PeerId}

/-- What is understood is a stop or the report of a peer that joins. -/
theorem intent_cases {i : Intent} (h : intent r q now = .ok i) :
    ∃ hash id, q.infoHash = hash.bytes ∧ q.peerId = id.bytes ∧
      ((q.event = .stopped ∧ i = .stop hash id (fromProvider r q)) ∨
        (q.event ≠ .stopped ∧ ∃ port wanted, port? q.port = some port ∧
          resolveWanted r q.wanted = .ok wanted ∧
          i = .join hash id (update q q.ip.canonical port (fromProvider r q) now) wanted)) := by
  cases hhash : Identifier.ofBytes? q.infoHash with
  | none => simp [intent, hhash] at h
  | some hash =>
      cases hid : Identifier.ofBytes? q.peerId with
      | none => simp [intent, hhash, hid] at h
      | some id =>
          refine ⟨hash, id, Identifier.ofBytes?_eq_some_iff.mp hhash,
            Identifier.ofBytes?_eq_some_iff.mp hid, ?_⟩
          simp only [intent, hhash, hid] at h
          by_cases hevent : q.event = .stopped
          · rw [if_pos hevent, Except.ok.injEq] at h
            exact Or.inl ⟨hevent, h.symm⟩
          · rw [if_neg hevent] at h
            cases hport : port? q.port with
            | none => simp [hport] at h
            | some port =>
                cases hwanted : resolveWanted r q.wanted with
                | error e => simp [hport, hwanted] at h
                | ok wanted =>
                    simp only [hport, hwanted, Except.ok.injEq] at h
                    exact Or.inr ⟨hevent, port, wanted, rfl, rfl, h.symm⟩

/-- A stop needs no port; a port makes a difference only to who is a provider. -/
theorem intent_eq_stop_iff {provider : Bool} :
    intent r q now = .ok (.stop hash id provider) ↔
      q.infoHash = hash.bytes ∧ q.peerId = id.bytes ∧ q.event = .stopped ∧
        provider = fromProvider r q := by
  constructor
  · intro h
    obtain ⟨hash, id, hhash, hid, ⟨hevent, hi⟩ | ⟨-, port, wanted, -, -, hi⟩⟩ := intent_cases h
    · cases hi
      exact ⟨hhash, hid, hevent, rfl⟩
    · cases hi
  · rintro ⟨hhash, hid, hevent, rfl⟩
    simp only [intent, hhash, hid, hevent, Identifier.ofBytes?_bytes, if_true]

/-- A peer joins with a port and a number of wanted peers. -/
theorem intent_eq_join_iff {u : Update} {wanted : Nat} :
    intent r q now = .ok (.join hash id u wanted) ↔
      q.infoHash = hash.bytes ∧ q.peerId = id.bytes ∧ q.event ≠ .stopped ∧
        ∃ port, port? q.port = some port ∧ resolveWanted r q.wanted = .ok wanted ∧
          u = update q q.ip.canonical port (r.isProvider q.ip.canonical port) now := by
  constructor
  · intro h
    obtain ⟨hash, id, hhash, hid, ⟨-, hi⟩ | ⟨hevent, port, wanted, hport, hwanted, hi⟩⟩ :=
      intent_cases h
    · cases hi
    · cases hi
      refine ⟨hhash, hid, hevent, port, hport, hwanted, ?_⟩
      rw [fromProvider, hport]
      rfl
  · rintro ⟨hhash, hid, hevent, port, hport, hwanted, rfl⟩
    simp only [intent, hhash, hid, hevent, hport, hwanted, fromProvider,
      Identifier.ofBytes?_bytes, if_false, Option.any_some]

/-- The command to the store. -/
def Intent.command : Intent → Command
  | stop hash id provider => .drop hash id provider
  | join hash id u _ => .save hash id u

/-- What an announce does to the store, if anything. -/
def actions (r : Rules) (q : Announcement) (now : Int64) : List Action :=
  match intent r q now with
  | .error _ => []
  | .ok i => [.command i.command]

end Intent

/-! ## The reply -/

section Answer

variable (r : Rules) (q : Announcement) (hash : InfoHash) (u : Update) (wanted : Nat)
  (badActor : Bool) (s : State)

theorem steady_listing : s.Steady (listing q s hash wanted).2 := by
  unfold listing
  split
  · exact .buffers s rfl fun _ h => h.getList4.2.getList6.2
  · exact .refl s

theorem steady_hint : s.Steady (hint q s hash u).2 := by
  unfold hint
  split
  · exact .refl s
  · exact Store.steady_baselineProvider s hash q.compact _

theorem steady_interval : s.Steady (interval r s).2 := by
  unfold interval
  split
  · exact .refl s
  · exact .draw s _

theorem steady_answer : s.Steady (answer r q hash u wanted badActor s).2 :=
  ((steady_listing q hash wanted s).trans (steady_hint q hash u _)).trans (steady_interval r _)

theorem answer_counts :
    ((answer r q hash u wanted badActor s).1.complete,
      (answer r q hash u wanted badActor s).1.incomplete) = Store.hashStats s hash := rfl

end Answer

/-- Enrolling saves, and counts if it has to. -/
theorem steady_enroll (r : Rules) (s : State) (hash : InfoHash) (id : PeerId) (u : Update) :
    (Store.save r.store s hash id u).2.Steady (enroll r s hash id u).2 := by
  show State.Steady _ (if (Store.save r.store s hash id u).1 then _ else _)
  split
  · exact .count _ (by decide) _
  · exact .refl _

end Announce

/-! ## The whole announce -/

open Announce

section Announce

variable {r : Rules} {q : Announcement} {now : Int64} {s : State} {hash : InfoHash} {id : PeerId}

theorem announce_of_error {e : Refusal} (h : intent r q now = .error e) :
    announce r q now s = (.error e, (s.count .announces 1).count e.counter 1) := by
  simp only [announce, process, h]
  rfl

theorem announce_of_stop {provider : Bool} (h : intent r q now = .ok (.stop hash id provider)) :
    announce r q now s =
      (.ok .stopped, Store.drop r.store (s.count .announces 1) hash id provider) := by
  simp only [announce, process, h]
  rfl

theorem announce_of_join {u : Update} {wanted : Nat}
    (h : intent r q now = .ok (.join hash id u wanted)) :
    announce r q now s =
      let enrolled := enroll r (s.count .announces 1) hash id u
      let answered := answer r q hash u wanted enrolled.1 enrolled.2
      (.ok (.announced answered.1), answered.2) := by
  simp only [announce, process, h]
  rfl

/-- An announce that is acknowledged without a reply was a stop. -/
theorem intent_of_stopped (h : (announce r q now s).1 = .ok .stopped) :
    ∃ hash id provider, intent r q now = .ok (.stop hash id provider) := by
  cases hintent : intent r q now with
  | error e =>
      rw [announce_of_error hintent] at h
      cases h
  | ok i =>
      cases i with
      | stop hash id provider => exact ⟨hash, id, provider, rfl⟩
      | join hash id u wanted =>
          rw [announce_of_join hintent] at h
          cases h

/-- An announce that gets a reply was that of a peer that joins. -/
theorem intent_of_announced {reply : AnnounceResult}
    (h : (announce r q now s).1 = .ok (.announced reply)) :
    ∃ hash id u wanted, intent r q now = .ok (.join hash id u wanted) := by
  cases hintent : intent r q now with
  | error e =>
      rw [announce_of_error hintent] at h
      cases h
  | ok i =>
      cases i with
      | stop hash id provider =>
          rw [announce_of_stop hintent] at h
          cases h
      | join hash id u wanted => exact ⟨hash, id, u, wanted, rfl⟩

theorem announce_performs (r : Rules) (q : Announcement) (now : Int64) (s : State) :
    s.Performs r.store (actions r q now) (announce r q now s).2 := by
  have hcount : s.Steady (s.count .announces 1) := .count s (by decide) _
  cases hintent : intent r q now with
  | error e =>
      rw [announce_of_error hintent, actions, hintent]
      exact .idle (hcount.trans (.count _ e.counter_ne_kind _))
  | ok i =>
      rw [actions, hintent]
      refine ⟨_, hcount, ?_⟩
      cases i with
      | stop hash id provider =>
          rw [announce_of_stop hintent]
          exact .refl _
      | join hash id u wanted =>
          rw [announce_of_join hintent]
          have hanswer := steady_answer r q hash u wanted
            (enroll r (s.count .announces 1) hash id u).1
            (enroll r (s.count .announces 1) hash id u).2
          exact (steady_enroll r _ hash id u).trans hanswer

end Announce

/-! ## Parking a reply -/

namespace AnnounceResult

variable (reply : AnnounceResult)

section Restored

variable {limit : Nat} {pools : Pools} (h : pools.Restored limit)
include h

theorem restored_recycleHint : (reply.recycleHint pools).Restored limit := by
  unfold recycleHint
  split
  · exact h.putHint _
  · exact h

theorem restored_recycle : (reply.recycle pools).Restored limit := by
  unfold recycle
  apply restored_recycleHint
  split
  · exact (h.putList4 _).putList6 _
  · exact h

theorem restored_intoCompact (v4 : Bool) : (reply.intoCompact v4 pools).2.Restored limit := by
  have hhint := reply.restored_recycleHint h
  unfold intoCompact
  split
  · split
    · exact hhint.putList6 _
    · exact hhint.putList4 _
  · exact hhint

end Restored

/-- No records of peers are parked with it. -/
theorem peers_recycleHint (pools : Pools) :
    (reply.recycleHint pools).peers = pools.peers := by
  unfold recycleHint
  split <;> rfl

theorem peers_recycle (pools : Pools) : (reply.recycle pools).peers = pools.peers := by
  unfold recycle
  rw [peers_recycleHint]
  split <;> rfl

theorem peers_intoCompact (v4 : Bool) (pools : Pools) :
    (reply.intoCompact v4 pools).2.peers = pools.peers := by
  rw [← reply.peers_recycleHint pools]
  unfold intoCompact
  split
  · split <;> rfl
  · rfl

theorem steady_recycle (s : State) : s.Steady { s with pools := reply.recycle s.pools } :=
  .buffers s (reply.peers_recycle s.pools) fun _ h => reply.restored_recycle h

theorem steady_intoCompact (v4 : Bool) (s : State) :
    s.Steady { s with pools := (reply.intoCompact v4 s.pools).2 } :=
  .buffers s (reply.peers_intoCompact v4 s.pools) fun _ h => reply.restored_intoCompact h v4

end AnnounceResult

end PeerTracker
