import PeerTracker.Proofs.Records
import PeerTracker.Proofs.Replies

/-!
# Peers that stop

A peer may have two records in a swarm: its own, and one as a provider. A stop takes the
first away, whatever endpoint it comes from, and the second if it comes from the endpoint
of a provider. What a swarm has no record of, no demand brings back other than an announce
of that peer on that hash, or a snapshot that names it (`recordAs_leads`), and nobody is
told of it in between.
-/

namespace PeerTracker

/-! ## Both records of a peer -/

/-- What a peer has a record as. -/
inductive Role where
  | peer
  | provider
deriving DecidableEq

def Swarm.table (w : Swarm) : Role → Table PeerId Peer
  | .peer => w.peers
  | .provider => w.providers

namespace State

/-- The record that a peer has on a hash in one of its roles. -/
def recordAs (s : State) (role : Role) (hash : InfoHash) (id : PeerId) : Option Peer :=
  (s.swarm? hash).bind fun w => (w.table role).get? id

theorem recordAs_peer (s : State) (hash : InfoHash) (id : PeerId) :
    s.recordAs .peer hash id = s.record? hash id := rfl

theorem recordAs_eq {s : State} {hash : InfoHash} {w : Swarm} (h : s.swarm? hash = some w)
    (role : Role) (id : PeerId) : s.recordAs role hash id = (w.table role).get? id := by
  rw [recordAs, h]
  rfl

theorem Steady.recordAs_eq {s t : State} (h : s.Steady t) (role : Role) (hash : InfoHash)
    (id : PeerId) : t.recordAs role hash id = s.recordAs role hash id := by
  rw [recordAs, recordAs, h.swarm?_eq]

theorem Reordered.recordAs_eq {s t : State} (h : s.Reordered t) (role : Role) (hash : InfoHash)
    (id : PeerId) : t.recordAs role hash id = s.recordAs role hash id := by
  have hrel := h.swarms hash
  rw [recordAs, recordAs]
  generalize s.swarm? hash = a, t.swarm? hash = b at hrel ⊢
  cases hrel with
  | none => rfl
  | some hreordered =>
      cases role with
      | peer => exact Table.get?_of_perm hreordered.peers id
      | provider => exact Table.get?_of_perm hreordered.providers id

end State

/-! ## What does not bring a record back -/

namespace Swarm

variable {role : Role} {id : PeerId}

/-- A report on another peer. -/
theorem get?_saved {i : PeerId} (h : id ≠ i) (w : Swarm) (p : Peer) (u : Update) (pools : Pools) :
    ((Store.saveProvider (Store.savePeer w i p u) i u pools).1.table role).get? id =
      (w.table role).get? id := by
  have hproviders : (Store.savePeer w i p u).providers = w.providers :=
    (sameRecords_recount w i u.complete).providers
  cases role with
  | peer =>
      obtain ⟨t, ht⟩ := Store.saveProvider_eq (Store.savePeer w i p u) i u pools
      rw [ht]
      show (Store.savePeer w i p u).peers.get? id = w.peers.get? id
      rw [savePeer_peers, Table.get?_insert_of_ne _ _ h]
  | provider =>
      show (Store.saveProvider _ i u pools).1.providers.get? id = w.providers.get? id
      unfold Store.saveProvider
      split
      · show ((Store.savePeer w i p u).providers.insert i _).get? id = _
        rw [Table.get?_insert_of_ne _ _ h, hproviders]
      · rw [hproviders]

/-- What a drop leaves was there. -/
theorem get?_of_dropped {w : Swarm} {i : PeerId} {provider : Bool} {p : Peer}
    (h : ((Store.dropped w i provider).table role).get? id = some p) :
    (w.table role).get? id = some p := by
  unfold Store.dropped at h
  cases role with
  | peer =>
      change (Swarm.remove _ i).2.peers.get? id = some p at h
      rw [remove_peers, Table.get?_erase] at h
      split at h
      · cases h
      · exact h
  | provider =>
      change (Swarm.remove _ i).2.providers.get? id = some p at h
      rw [remove_providers] at h
      cases provider with
      | false => exact h
      | true =>
          change (w.providers.erase i).get? id = some p at h
          rw [Table.get?_erase] at h
          split at h
          · cases h
          · exact h

/-- What a sweep leaves was there. -/
theorem get?_of_expired {w : Swarm} {now timeout : Int64} {p : Peer}
    (h : (((Store.expire now timeout w).1).table role).get? id = some p) :
    (w.table role).get? id = some p := by
  cases role with
  | peer =>
      change (Store.expire now timeout w).1.peers.get? id = some p at h
      rw [get?_expire] at h
      exact (Option.filter_eq_some_iff.mp h).1
  | provider =>
      change (Store.expire now timeout w).1.providers.get? id = some p at h
      rw [expire_providers, Table.get?_filter] at h
      exact (Option.filter_eq_some_iff.mp h).1

/-- An entry of a snapshot that does not name the peer. -/
theorem get?_ofRecord {r : Snapshot.SwarmRecord}
    (h : id ∉ (r.peers ++ r.providers).map (·.id)) :
    ((ofRecord r).table role).get? id = none := by
  have hnot : ∀ p ∈ r.peers ++ r.providers, ¬p.id = id :=
    fun p hp hid => h (List.mem_map.mpr ⟨p, hp, hid⟩)
  cases role with
  | peer =>
      show (ofRecord r).peers.get? id = none
      rw [get?_ofRecord_peers, Option.map_eq_none_iff, List.find?_eq_none]
      intro p hp
      simpa using hnot p (List.mem_append_left _ hp)
  | provider =>
      show (ofRecord r).providers.get? id = none
      rw [get?_ofRecord_providers, Option.map_eq_none_iff, List.find?_eq_none]
      intro p hp
      simpa using hnot p (List.mem_append_right _ (List.mem_reverse.mp hp))

end Swarm

/-- The action writes a record of this peer on this hash. -/
def Action.Brings (hash : InfoHash) (id : PeerId) : Action → Prop
  | command (.save h i _) => h = hash ∧ i = id
  | command _ => False
  | entry r => r.hash = hash ∧ id ∈ (r.peers ++ r.providers).map (·.id)

/-- Some part of the demand does. -/
def Demand.Brings (rules : Rules) (hash : InfoHash) (id : PeerId) (d : Demand) : Prop :=
  ∃ a ∈ d.actions rules, a.Brings hash id

section Absent

variable {role : Role} {hash : InfoHash} {id : PeerId} {rules : StoreRules} {s : State}

theorem recordAs_of_insert {s' : State} {h : InfoHash} {w : Swarm}
    (hswarms : s'.swarms = s.swarms.insert h w) (hs : s.recordAs role hash id = none)
    (hw : h = hash → (w.table role).get? id = none) : s'.recordAs role hash id = none := by
  rw [State.recordAs, State.swarm?, hswarms, Table.get?_insert]
  split
  · next heq => exact hw heq.symm
  · exact hs

theorem Store.recordAs_openSwarm (hsound : s.Sound) (hs : s.recordAs role hash id = none) :
    ((openSwarm s hash).table role).get? id = none := by
  cases hw : s.swarm? hash with
  | none =>
      rw [openSwarm_of_none hw]
      cases role <;> rfl
  | some w =>
      rw [openSwarm_eq hw (hsound hash w hw).live, ← State.recordAs_eq hw]
      exact hs

namespace Store

variable {p : Peer}

theorem recordAs_of_drop {h : InfoHash} {i : PeerId} {provider : Bool}
    (hp : (drop rules s h i provider).recordAs role hash id = some p) :
    s.recordAs role hash id = some p := by
  rw [State.recordAs, swarm?_drop] at hp
  split at hp
  · next heq =>
    subst heq
    cases hw : s.swarm? hash with
    | none =>
        rw [hw] at hp
        cases hp
    | some w =>
        rw [hw] at hp
        rw [State.recordAs_eq hw]
        exact Swarm.get?_of_dropped hp
  · exact hp

theorem recordAs_of_trim {now timeout : Int64}
    (hp : (trim rules s now timeout).2.recordAs role hash id = some p) :
    s.recordAs role hash id = some p := by
  rw [State.recordAs, swarm?_trim] at hp
  cases hw : s.swarm? hash with
  | none =>
      rw [hw] at hp
      cases hp
  | some w =>
      rw [hw, Option.bind_some] at hp
      cases htrim : trimmed now timeout w with
      | none =>
          rw [htrim] at hp
          cases hp
      | some v =>
          obtain ⟨rfl, -⟩ := trimmed_eq_some htrim
          rw [htrim] at hp
          rw [State.recordAs_eq hw]
          exact Swarm.get?_of_expired hp

end Store

/-- A record that is not there stays away unless it is brought. -/
theorem Action.recordAs_exec (hsound : s.Sound) {a : Action} (ha : ¬a.Brings hash id)
    (hs : s.recordAs role hash id = none) : (a.exec rules s).recordAs role hash id = none := by
  cases a with
  | entry r =>
      have hswarms := Store.loadEntry_swarms rules.fast ((0, 0), s) r
      by_cases hempty : (Swarm.ofRecord r).peers.isEmpty = true
      · rw [if_pos hempty] at hswarms
        rw [State.recordAs, State.swarm?, Action.exec, hswarms]
        exact hs
      · rw [if_neg hempty] at hswarms
        refine recordAs_of_insert hswarms hs fun hhash => Swarm.get?_ofRecord fun hid => ?_
        exact ha ⟨hhash, hid⟩
  | command c =>
      cases c with
      | save h i u =>
          have hswarms : (Action.exec rules s (.command (.save h i u))).swarms =
              s.swarms.insert h _ := rfl
          refine recordAs_of_insert hswarms hs fun hhash => ?_
          subst hhash
          have hne : id ≠ i := fun hid => ha ⟨rfl, hid.symm⟩
          exact (Swarm.get?_saved hne _ _ u _).trans (Store.recordAs_openSwarm hsound hs)
      | drop h i provider =>
          refine Option.eq_none_iff_forall_ne_some.mpr fun p hp => ?_
          rw [Store.recordAs_of_drop hp] at hs
          cases hs
      | trim now timeout =>
          refine Option.eq_none_iff_forall_ne_some.mpr fun p hp => ?_
          rw [Store.recordAs_of_trim hp] at hs
          cases hs

end Absent

theorem recordAs_leads {role : Role} {hash : InfoHash} {id : PeerId} {rules : Rules}
    {s t : State} (h : Leads rules (fun d => ¬d.Brings rules hash id) s t) (hsound : s.Sound)
    (hs : s.recordAs role hash id = none) : t.recordAs role hash id = none := by
  refine (h.keeps (P := fun s => s.Sound ∧ s.recordAs role hash id = none) ?_ ?_ ?_
    ⟨hsound, hs⟩).2
  · rintro s t hsteady ⟨hsound, hs⟩
    exact ⟨hsteady.sound hsound, (hsteady.recordAs_eq role hash id).trans hs⟩
  · rintro s d hd a ha ⟨hsound, hs⟩
    exact ⟨hsound.exec s a, a.recordAs_exec hsound (fun hbrings => hd ⟨a, ha, hbrings⟩) hs⟩
  · rintro s t hreordered ⟨hsound, hs⟩
    exact ⟨hreordered.sound hsound, (hreordered.recordAs_eq role hash id).trans hs⟩

/-! ## Stopping -/

namespace Store

variable (rules : StoreRules) (s : State) (hash : InfoHash) (id : PeerId)

theorem recordAs_drop_peer (provider : Bool) :
    (drop rules s hash id provider).recordAs .peer hash id = none := by
  rw [State.recordAs_peer, record?_drop, if_pos ⟨rfl, rfl⟩]

/-- The record of a provider goes only if the drop says so. -/
theorem recordAs_drop_provider (provider : Bool) :
    (drop rules s hash id provider).recordAs .provider hash id =
      if provider then none else s.recordAs .provider hash id := by
  cases hw : s.swarm? hash with
  | none =>
      rw [drop_of_none rules hw]
      have hnone : s.recordAs .provider hash id = none := by
        rw [State.recordAs, hw]
        rfl
      rw [hnone]
      split <;> rfl
  | some w =>
      have hdropped : (drop rules s hash id provider).swarm? hash =
          some (dropped w id provider) := by
        rw [State.swarm?, (drop_spec rules hw id provider).1, Table.get?_insert_self]
      rw [State.recordAs_eq hdropped, State.recordAs_eq hw]
      show (Swarm.remove _ id).2.providers.get? id = _
      rw [Swarm.remove_providers]
      cases provider with
      | false => rfl
      | true =>
          show (w.providers.erase id).get? id = none
          rw [Table.get?_erase, if_pos rfl]

end Store

/-- An announce of another peer brings nothing of this one. -/
theorem Announce.not_brings {r : Rules} {q : Announcement} {hash : InfoHash} {id : PeerId}
    (h : q.peerId ≠ id.bytes) (now : Int64) : ∀ a ∈ actions r q now, ¬a.Brings hash id := by
  intro a ha hbrings
  unfold actions at ha
  cases hintent : intent r q now with
  | error e =>
      rw [hintent] at ha
      cases ha
  | ok i =>
      rw [hintent, List.mem_singleton] at ha
      subst ha
      cases i with
      | stop hash' id' provider => exact hbrings
      | join hash' id' u wanted =>
          obtain ⟨-, rfl⟩ := hbrings
          exact h (intent_eq_join_iff.mp hintent).2.1

theorem Table.key_notMem_of_get? {K V : Type} [DecidableEq K] {t : Table K V} {k : K}
    (h : t.get? k = none) {es : List (K × V)} (hes : ∀ e ∈ es, e ∈ t.entries) :
    k ∉ es.map Prod.fst := by
  intro hk
  obtain ⟨e, he, rfl⟩ := List.mem_map.mp hk
  rw [(get?_eq_some_iff t e.1 e.2).mpr (hes e he)] at h
  cases h

section Stop

variable {rules : Rules} {limit : Nat} {s s' t t' : State} {q : Announcement} {now : Int64}
  {hash : InfoHash} {id : PeerId} {reply : AnnounceResult}

/-- What an acknowledged stop leaves. -/
theorem announce_stopped (hsound : s.Sound) (hrestored : s.pools.Restored limit)
    (h : announce rules q now s = (.ok .stopped, s')) :
    ∃ hash id, q.infoHash = hash.bytes ∧ q.peerId = id.bytes ∧ s'.Sound ∧
      s'.pools.Restored limit ∧ s'.recordAs .peer hash id = none ∧
      s'.recordAs .provider hash id =
        if Announce.fromProvider rules q then none else s.recordAs .provider hash id := by
  obtain ⟨hash, id, provider, hintent⟩ := intent_of_stopped (congrArg Prod.fst h)
  obtain ⟨hhash, hid, -, hprovider⟩ := Announce.intent_eq_stop_iff.mp hintent
  rw [announce_of_stop hintent, Prod.mk.injEq] at h
  obtain ⟨-, rfl⟩ := h
  have hcount : s.Steady (s.count .announces 1) := .count s (by decide) _
  refine ⟨hash, id, hhash, hid, ?_, ?_, ?_, ?_⟩
  · exact Store.sound_drop rules.store (hcount.sound hsound) hash id provider
  · exact Store.pools_drop (Pools.peerStable_restored limit) rules.store
      (hcount.restored limit hrestored) hash id provider
  · exact Store.recordAs_drop_peer rules.store _ hash id provider
  · rw [Store.recordAs_drop_provider, hcount.recordAs_eq, hprovider]

/-- Nobody else is shown a record that is not there and was not brought back. -/
theorem announce_does_not_show (ht : Leads rules (fun d => ¬d.Brings rules hash id) s t)
    (hsound : s.Sound) (hrestored : s.pools.Restored limit)
    (h : announce rules q now t = (.ok (.announced reply), t')) (hhash : q.infoHash = hash.bytes)
    (hid : q.peerId ≠ id.bytes) (hpeer : s.recordAs .peer hash id = none) :
    ∃ w, t'.swarm? hash = some w ∧
      (∃ es, es.Sublist w.peers.entries ∧ reply.peers.Shows (!q.noPeerId) es ∧
        id ∉ es.map Prod.fst) ∧
      (s.recordAs .provider hash id = none → ∀ hint, reply.hint = some hint →
        ∃ e ∈ w.providers.entries, hint.Shows (!q.noPeerId) e ∧ e.1 ≠ id) := by
  obtain ⟨-, w, hw, ⟨es, hes, hshows⟩, hhint⟩ :=
    announce_shows h (ht.restored hrestored) hhash
  -- this announce is one more demand that does not bring the peer back
  have ht' : Leads rules (fun d => ¬d.Brings rules hash id) s t' := by
    have hexec : (Demand.announce q now false).exec rules t = t' := by
      simp [Demand.exec, h]
    rw [← hexec]
    refine .serve _ ht ?_
    rintro ⟨a, ha, hbrings⟩
    exact Announce.not_brings hid now a ha hbrings
  refine ⟨w, hw, ⟨es, hes, hshows, ?_⟩, ?_⟩
  · have hnone := recordAs_leads ht' hsound hpeer
    rw [State.recordAs_eq hw] at hnone
    exact Table.key_notMem_of_get? hnone fun e he => hes.subset he
  · intro hgone hint hreply
    obtain ⟨e, he, hshows'⟩ := hhint hint hreply
    have hnone := recordAs_leads ht' hsound hgone
    rw [State.recordAs_eq hw] at hnone
    refine ⟨e, he, hshows', ?_⟩
    rintro rfl
    exact Table.key_notMem_of_get? hnone (fun _ h => h) (List.mem_map_of_mem he)

end Stop

/-- **A peer that stopped is not shown to others.** Whatever a tracker did before, when it
acknowledges a stop, from whatever endpoint, the peer has no record of its own left on that
hash. Its record as a provider is gone if the stop names the endpoint of a provider, and is
as it was otherwise. From then on, until something brings the peer back, an announce of
that peer on that hash or a snapshot that names it, no list that others are given on that
hash shows it, and no hint does if its record as a provider was gone. -/
theorem stopped_peer_is_not_shown (rules : Rules) (limit : Nat) (random : RandomSource)
    {s : State} (hs : Reachable rules (.fresh limit random) s) (q : Announcement) (now : Int64)
    {s' : State} (h : announce rules q now s = (.ok .stopped, s')) :
    ∃ hash id, q.infoHash = hash.bytes ∧ q.peerId = id.bytes ∧
      s'.recordAs .peer hash id = none ∧
      s'.recordAs .provider hash id =
        (if Announce.fromProvider rules q then none else s.recordAs .provider hash id) ∧
      ∀ t, Leads rules (fun d => ¬d.Brings rules hash id) s' t →
        t.recordAs .peer hash id = none ∧
        (s'.recordAs .provider hash id = none → t.recordAs .provider hash id = none) ∧
        ∀ q' now' reply t', announce rules q' now' t = (.ok (.announced reply), t') →
          q'.infoHash = hash.bytes → q'.peerId ≠ id.bytes →
          ∃ w, t'.swarm? hash = some w ∧
            (∃ es, es.Sublist w.peers.entries ∧ reply.peers.Shows (!q'.noPeerId) es ∧
              id ∉ es.map Prod.fst) ∧
            (s'.recordAs .provider hash id = none → ∀ hint, reply.hint = some hint →
              ∃ e ∈ w.providers.entries, hint.Shows (!q'.noPeerId) e ∧ e.1 ≠ id) := by
  have hsoundBefore : s.Sound := hs.sound (State.sound_fresh limit random)
  have hrestoredBefore : s.pools.Restored limit := hs.restored (Pools.restored_fresh limit)
  obtain ⟨hash, id, hhash, hid, hsound, hrestored, hpeer, hprovider⟩ :=
    announce_stopped hsoundBefore hrestoredBefore h
  refine ⟨hash, id, hhash, hid, hpeer, hprovider, fun t ht => ?_⟩
  refine ⟨recordAs_leads ht hsound hpeer, recordAs_leads ht hsound, ?_⟩
  intro q' now' reply t' h' hhash' hid'
  exact announce_does_not_show ht hsound hrestored h' hhash' hid' hpeer

/-- A tracker with the endpoint of the sample announce for a provider. -/
def sampleSettings : Settings where
  tracker := { baselineProviders := ["10.0.0.1:6881"] }

/-- A stop from the endpoint of the provider takes both records, and the next peer is shown
neither. -/
theorem stopped_peer_is_not_shown_provider :
    let rules := Rules.ofSettings sampleSettings []
    let start := State.ofSettings sampleSettings (.ofList [])
    let s := (Demand.announce (sampleAnnouncement .zero) 1 true).exec rules start
    let stop := { sampleAnnouncement .zero with event := .stopped }
    ∃ s', announce rules stop 2 s = (.ok .stopped, s') ∧ s'.recordAs .peer .zero .zero = none ∧
      (s.recordAs .provider .zero .zero).isSome ∧ s'.recordAs .provider .zero .zero = none ∧
      ∃ reply t', announce rules (sampleAnnouncement otherId) 3 s' =
        (.ok (.announced reply), t') ∧
        ∃ es, reply.peers.Shows true es ∧ .zero ∉ es.map Prod.fst := by
  intro rules start s stop
  have hs : Reachable rules start s := .serve _ .refl trivial
  have hstop : Announce.intent rules stop 2 =
      .ok (.stop .zero .zero (Announce.fromProvider rules stop)) :=
    Announce.intent_eq_stop_iff.mpr ⟨rfl, rfl, rfl, rfl⟩
  have hjoin : Announce.intent rules (sampleAnnouncement otherId) 3 = .ok
      (.join .zero otherId (Announce.update (sampleAnnouncement otherId) (.v4 ⟨10, 0, 0, 1⟩) 6881
        (rules.isProvider (.v4 ⟨10, 0, 0, 1⟩) 6881) 3) 50) :=
    Announce.intent_eq_join_iff.mpr ⟨rfl, rfl, by decide, 6881, by decide, rfl, rfl⟩
  obtain ⟨s', h⟩ : ∃ s', announce rules stop 2 s = (.ok .stopped, s') :=
    ⟨_, announce_of_stop hstop⟩
  obtain ⟨reply, t', h'⟩ : ∃ reply t', announce rules (sampleAnnouncement otherId) 3 s' =
      (.ok (.announced reply), t') := ⟨_, _, announce_of_join hjoin⟩
  obtain ⟨hash, id, hhash, hid, hpeer, hprovider, hafter⟩ :=
    stopped_peer_is_not_shown rules 100 (.ofList []) hs stop 2 h
  have hhashZero : hash = .zero := (Identifier.bytes_inj hhash).symm
  have hidZero : id = .zero := (Identifier.bytes_inj hid).symm
  subst hhashZero hidZero
  have hfrom : Announce.fromProvider rules stop = true := by decide +kernel
  rw [hfrom, if_pos rfl] at hprovider
  obtain ⟨-, -, hshown⟩ := hafter s' .refl
  obtain ⟨w, -, ⟨es, -, hshows, hes⟩, -⟩ :=
    hshown (sampleAnnouncement otherId) 3 reply t' h' rfl (by decide)
  exact ⟨s', h, hpeer, by decide +kernel, hprovider, reply, t', h', es, hshows, hes⟩

/-- A stop from elsewhere leaves the record as a provider, which is the hint that the next
peer gets; and a snapshot from before the stop brings the other record back. -/
theorem stop_from_elsewhere_leaves_provider :
    let rules := Rules.ofSettings sampleSettings []
    let start := State.ofSettings sampleSettings (.ofList [])
    let s := (Demand.announce (sampleAnnouncement .zero) 1 true).exec rules start
    let stop := { sampleAnnouncement .zero with event := .stopped, port := 0 }
    let s' := (announce rules stop 2 s).2
    let other := { sampleAnnouncement otherId with port := 1 }
    let restored := (Demand.restore (Snapshot.encode (Store.snapshot s))).exec rules s'
    Reachable rules start s ∧ (announce rules stop 2 s).1 = .ok .stopped ∧
      (s'.recordAs .provider .zero .zero).map (·.compact) = some [10, 0, 0, 1, 0x1A, 0xE1] ∧
      (announce rules other 3 s').1 = .ok (.announced
        ⟨1800, 1, 0, .compact ⟨[10, 0, 0, 1, 0, 1], 600⟩ ⟨[], 1800⟩,
          some (.compact ⟨[10, 0, 0, 1, 0x1A, 0xE1], 18⟩), false⟩) ∧
      (Store.listed restored .zero).map Prod.fst = [.zero] := by
  intro rules start s stop s' other restored
  have hs : Reachable rules start s := .serve _ .refl trivial
  refine ⟨hs, ?_, ?_, ?_, ?_⟩
  · decide +kernel
  · decide +kernel
  · decide +kernel
  · decide +kernel

end PeerTracker
