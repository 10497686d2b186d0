import PeerTracker.Proofs.Snapshots
import PeerTracker.Proofs.Stops

/-!
# Edits of different peers

A save or a drop is an edit of one peer on one hash. It writes the records of that peer by
what stands in them and leaves every other record alone (`Edit.recordAs_exec`), so that edits
of different peers write the same in any order. The counters of a swarm and the totals are
shared, but they are recounts of the records, and so they come out the same without a word
about how two edits move them. What does depend on the order is how many incomplete peers a
record remembers, which its own edit alone reads.
-/

namespace PeerTracker

/-! ## Writing apart -/

section WritesAt

variable {σ α κ β : Type}

/-- Each step writes at its own key, by what stands there. -/
structure WritesAt (step : σ → α → σ) (Inv : σ → Prop) (key : α → κ) (view : σ → κ → β)
    (write : α → β → β) : Prop where
  inv : ∀ s a, Inv s → Inv (step s a)
  other : ∀ s a k, Inv s → key a ≠ k → view (step s a) k = view s k
  own : ∀ s a, Inv s → view (step s a) (key a) = write a (view s (key a))

namespace WritesAt

variable {step : σ → α → σ} {Inv : σ → Prop} {key : α → κ} {view : σ → κ → β}
  {write : α → β → β} (h : WritesAt step Inv key view write)
include h

theorem foldl_other {k : κ} (as : List α) (hk : k ∉ as.map key) {s : σ} (hs : Inv s) :
    view (as.foldl step s) k = view s k := by
  induction as generalizing s with
  | nil => rfl
  | cons a as ih =>
      rw [List.map_cons, List.mem_cons, not_or] at hk
      rw [List.foldl_cons, ih hk.2 (h.inv s a hs), h.other s a k hs fun e => hk.1 e.symm]

theorem foldl_own {a : α} {as : List α} (hkeys : (as.map key).Nodup) (ha : a ∈ as) {s : σ}
    (hs : Inv s) : view (as.foldl step s) (key a) = write a (view s (key a)) := by
  induction as generalizing s with
  | nil => cases ha
  | cons b as ih =>
      rw [List.map_cons, List.nodup_cons] at hkeys
      rw [List.foldl_cons]
      rcases List.mem_cons.mp ha with rfl | ha
      · rw [h.foldl_other as hkeys.1 (h.inv s a hs), h.own s a hs]
      · have hne : key b ≠ key a := fun e => hkeys.1 (e ▸ List.mem_map_of_mem ha)
        rw [ih hkeys.2 ha (h.inv s b hs), h.other s b (key a) hs hne]

/-- Steps with different keys write the same in any order. -/
theorem foldl_perm {as bs : List α} (hperm : as.Perm bs) (hkeys : (as.map key).Nodup) {s : σ}
    (hs : Inv s) (k : κ) : view (as.foldl step s) k = view (bs.foldl step s) k := by
  by_cases hk : k ∈ as.map key
  · obtain ⟨a, ha, rfl⟩ := List.mem_map.mp hk
    have hkeys' : (bs.map key).Nodup := (hperm.map key).nodup_iff.mp hkeys
    rw [h.foldl_own hkeys ha hs, h.foldl_own hkeys' (hperm.mem_iff.mp ha) hs]
  · have hk' : k ∉ bs.map key := fun hb => hk ((hperm.map key).mem_iff.mpr hb)
    rw [h.foldl_other as hk hs, h.foldl_other bs hk' hs]

end WritesAt

end WritesAt

/-! ## What an edit writes -/

/-- The swarm with a report in it. -/
def Swarm.report (w : Swarm) (id : PeerId) (u : Update) : Swarm :=
  (Store.saveProvider (Store.savePeer w id ((w.peers.get? id).getD .blank) u) id u default).1

namespace Store

variable (rules : StoreRules) {s : State}

theorem openSwarm_eq_getD (hs : s.Sound) (hash : InfoHash) :
    openSwarm s hash = (s.swarm? hash).getD ∅ := by
  cases hw : s.swarm? hash with
  | none => exact openSwarm_of_none hw
  | some w => exact openSwarm_eq hw (hs hash w hw).live

/-- Blank records are all alike, wherever they come from. -/
theorem saveProvider_fst {pools pools' : Pools} (h : pools.Clean) (h' : pools'.Clean) (w : Swarm)
    (id : PeerId) (u : Update) :
    (saveProvider w id u pools).1 = (saveProvider w id u pools').1 := by
  have hsame : (record w.providers id pools).1 = (record w.providers id pools').1 := by
    rw [record_fst h, record_fst h']
  unfold saveProvider
  split
  · show { w with providers := w.providers.insert id ((record w.providers id pools).1.apply u) } = _
    rw [hsame]
  · rfl

theorem clean_default : (default : Pools).Clean := fun _ h => absurd h List.not_mem_nil

/-- A save puts the report into one swarm, which it makes if there is none. -/
theorem swarms_save (hs : s.Sound) (hclean : s.pools.Clean) (hash : InfoHash) (id : PeerId)
    (u : Update) :
    (save rules s hash id u).2.swarms =
      s.swarms.insert hash (((s.swarm? hash).getD ∅).report id u) := by
  have hpools := pools_record Pools.peerStable_clean hclean (openSwarm s hash).peers id
  show s.swarms.insert hash (saveProvider
    (savePeer (openSwarm s hash) id (record (openSwarm s hash).peers id s.pools).1 u) id u
    (record (openSwarm s hash).peers id s.pools).2).1 = _
  rw [saveProvider_fst hpools clean_default, record_fst hclean, openSwarm_eq_getD hs]
  rfl

end Store

namespace Swarm

variable (w : Swarm) (id : PeerId) (u : Update)

theorem get?_report_of_ne {i : PeerId} (h : i ≠ id) (role : Role) :
    ((w.report id u).table role).get? i = (w.table role).get? i := get?_saved h w _ u default

theorem get?_report_provider : (w.report id u).providers.get? id =
    if u.provider then some (((w.providers.get? id).getD .blank).apply u)
    else w.providers.get? id := by
  have hproviders : (Store.savePeer w id ((w.peers.get? id).getD .blank) u).providers =
      w.providers := (sameRecords_recount w id u.complete).providers
  unfold report Store.saveProvider
  split
  · show (Table.insert _ id _).get? id = _
    rw [Table.get?_insert_self, hproviders, Store.record_fst Store.clean_default]
  · rw [hproviders]

theorem get?_dropped_of_ne {i : PeerId} (h : i ≠ id) (provider : Bool) (role : Role) :
    ((Store.dropped w id provider).table role).get? i = (w.table role).get? i := by
  unfold Store.dropped
  cases role with
  | peer =>
      show (Swarm.remove _ id).2.peers.get? i = w.peers.get? i
      rw [remove_peers, Table.get?_erase, if_neg h]
  | provider =>
      show (Swarm.remove _ id).2.providers.get? i = w.providers.get? i
      rw [remove_providers]
      cases provider with
      | false => rfl
      | true =>
          show (w.providers.erase id).get? i = w.providers.get? i
          rw [Table.get?_erase, if_neg h]

end Swarm

/-- A change to the records of one peer on one hash. -/
inductive Edit where
  | save (hash : InfoHash) (id : PeerId) (u : Update)
  | drop (hash : InfoHash) (id : PeerId) (provider : Bool)

namespace Edit

def command : Edit → Command
  | save hash id u => .save hash id u
  | drop hash id provider => .drop hash id provider

def hash : Edit → InfoHash
  | save hash _ _ => hash
  | drop hash _ _ => hash

/-- Whose records it changes. -/
def key : Edit → InfoHash × PeerId
  | save hash id _ => (hash, id)
  | drop hash id _ => (hash, id)

def exec (rules : StoreRules) (s : State) (e : Edit) : State := e.command.exec rules s

/-- Whether it is the report of a bad actor. -/
def flag (rules : StoreRules) (s : State) : Edit → Bool
  | save hash id u => (Store.save rules s hash id u).1
  | drop _ _ _ => false

/-- The flags of edits that are made one after the other. -/
def flags (rules : StoreRules) : State → List Edit → List (Edit × Bool)
  | _, [] => []
  | s, e :: es => (e, e.flag rules s) :: flags rules (e.exec rules s) es

/-- What becomes of the swarm under its hash. -/
def change : Edit → Option Swarm → Option Swarm
  | save _ id u, w? => some ((w?.getD ∅).report id u)
  | drop _ id provider, w? => w?.map (Store.dropped · id provider)

/-- What becomes of the records of its peer. -/
def write : Edit → (Role → Option Peer) → Role → Option Peer
  | save _ _ u, old, .peer => some (((old .peer).getD .blank).apply u).forget
  | save _ _ u, old, .provider =>
    if u.provider then some (((old .provider).getD .blank).apply u) else old .provider
  | drop _ _ _, _, .peer => none
  | drop _ _ provider, old, .provider => if provider then none else old .provider

end Edit

theorem State.recordAs_eq_getD (s : State) (role : Role) (hash : InfoHash) (id : PeerId) :
    s.recordAs role hash id = (((s.swarm? hash).getD ∅).table role).get? id := by
  rw [recordAs]
  cases s.swarm? hash with
  | none => cases role <;> rfl
  | some w => rfl

/-- The records of a peer on a hash, but for what its own remembers of others. -/
def State.written (s : State) (k : InfoHash × PeerId) : Role → Option Peer
  | .peer => (s.record? k.1 k.2).map Peer.forget
  | .provider => s.recordAs .provider k.1 k.2

/-- What edits rely on of a store. -/
structure State.Sane (s : State) : Prop where
  sound : s.Sound
  clean : s.pools.Clean

theorem State.Sane.exec (rules : StoreRules) {s : State} (h : s.Sane) (a : Action) :
    (a.exec rules s).Sane :=
  ⟨h.sound.exec s a, a.pools_exec Pools.peerStable_clean rules h.clean⟩

theorem State.Sane.edit (rules : StoreRules) {s : State} (h : s.Sane) (e : Edit) :
    (e.exec rules s).Sane :=
  h.exec rules (.command e.command)

namespace Edit

variable (rules : StoreRules) {s : State} (h : s.Sane)
include h

theorem swarm?_exec (e : Edit) (hash : InfoHash) :
    (e.exec rules s).swarm? hash =
      if hash = e.hash then e.change (s.swarm? e.hash) else s.swarm? hash := by
  cases e with
  | save hash' id u =>
      show (Store.save rules s hash' id u).2.swarms.get? hash = _
      rw [Store.swarms_save rules h.sound h.clean, Table.get?_insert]
      rfl
  | drop hash' id provider => exact Store.swarm?_drop rules hash' hash id provider

theorem recordAs_exec_of_ne (e : Edit) {hash : InfoHash} {id : PeerId} (hne : e.key ≠ (hash, id))
    (role : Role) : (e.exec rules s).recordAs role hash id = s.recordAs role hash id := by
  rw [State.recordAs, swarm?_exec rules h]
  split
  · next heq =>
    subst heq
    cases e with
    | save hash' id' u =>
        have hid : id ≠ id' := fun heq => hne (heq ▸ rfl)
        show (((s.swarm? hash').getD ∅).report id' u |>.table role).get? id = _
        rw [Swarm.get?_report_of_ne _ _ _ hid, ← s.recordAs_eq_getD]
        rfl
    | drop hash' id' provider =>
        have hid : id ≠ id' := fun heq => hne (heq ▸ rfl)
        show ((s.swarm? hash').map _).bind _ = (s.swarm? hash').bind _
        cases s.swarm? hash' with
        | none => rfl
        | some w => exact Swarm.get?_dropped_of_ne w id' hid provider role
  · rfl

/-- An edit writes the records of its own peer. -/
theorem written_exec_self (e : Edit) :
    (e.exec rules s).written e.key = e.write (s.written e.key) := by
  funext role
  cases e with
  | save hash id u =>
      cases role with
      | peer =>
          obtain ⟨n, hn⟩ := Store.record?_save rules h.sound h.clean hash id u hash id
          rw [if_pos ⟨rfl, rfl⟩] at hn
          show ((Store.save rules s hash id u).2.record? hash id).map Peer.forget =
            some ((((s.record? hash id).map Peer.forget).getD .blank).apply u).forget
          rw [hn]
          cases s.record? hash id <;> rfl
      | provider =>
          have hswarm : (exec rules s (save hash id u)).swarm? hash =
              some (((s.swarm? hash).getD ∅).report id u) := by
            rw [swarm?_exec rules h]
            exact if_pos rfl
          show (exec rules s (save hash id u)).recordAs .provider hash id =
            if u.provider then some (((s.recordAs .provider hash id).getD .blank).apply u)
            else s.recordAs .provider hash id
          rw [State.recordAs_eq hswarm, s.recordAs_eq_getD]
          exact Swarm.get?_report_provider _ id u
  | drop hash id provider =>
      cases role with
      | peer =>
          exact congrArg (Option.map Peer.forget)
            (Store.recordAs_drop_peer rules s hash id provider)
      | provider => exact Store.recordAs_drop_provider rules s hash id provider

omit h in
theorem writesAt_written :
    WritesAt (exec rules) State.Sane key State.written write where
  inv s e hs := hs.edit rules e
  other s e k hs hne := by
    funext role
    cases role with
    | peer => exact congrArg (Option.map Peer.forget) (recordAs_exec_of_ne rules hs e hne .peer)
    | provider => exact recordAs_exec_of_ne rules hs e hne .provider
  own s e hs := written_exec_self rules hs e

omit h in
/-- On different hashes whole swarms are written apart. -/
theorem writesAt_swarm? : WritesAt (exec rules) State.Sane hash State.swarm? change where
  inv s e hs := hs.edit rules e
  other s e k hs hne := by
    rw [swarm?_exec rules hs, if_neg fun heq => hne heq.symm]
  own s e hs := by
    rw [swarm?_exec rules hs, if_pos rfl]

theorem sane_foldl (es : List Edit) : (es.foldl (exec rules) s).Sane := by
  induction es generalizing s with
  | nil => exact h
  | cons e es ih => exact ih (h.edit rules e)

/-- There is a swarm if there was one, or if an edit saved to it. -/
theorem isSome_swarm?_foldl (es : List Edit) (hash : InfoHash) :
    ((es.foldl (exec rules) s).swarm? hash).isSome ↔
      (s.swarm? hash).isSome ∨ ∃ id u, save hash id u ∈ es := by
  induction es generalizing s with
  | nil => simp
  | cons e es ih =>
      rw [List.foldl_cons, ih (h.edit rules e)]
      cases e with
      | save hash' id u =>
          have hsave := Store.isSome_swarm?_save rules (s := s) hash' id u hash
          show ((Store.save rules s hash' id u).2.swarm? hash).isSome ∨ _ ↔ _
          rw [hsave]
          constructor
          · rintro ((rfl | hsome) | ⟨i, v, hmem⟩)
            · exact .inr ⟨id, u, List.mem_cons_self⟩
            · exact .inl hsome
            · exact .inr ⟨i, v, List.mem_cons_of_mem _ hmem⟩
          · rintro (hsome | ⟨i, v, hmem⟩)
            · exact .inl (.inr hsome)
            · rcases List.mem_cons.mp hmem with heq | hmem
              · cases heq
                exact .inl (.inl rfl)
              · exact .inr ⟨i, v, hmem⟩
      | drop hash' id provider =>
          have hdrop := Store.isSome_swarm?_drop rules (s := s) hash' id provider hash
          show ((Store.drop rules s hash' id provider).swarm? hash).isSome ∨ _ ↔ _
          rw [hdrop]
          simp

/-! ## Flags -/

theorem flag_eq (e : Edit) : e.flag rules s = match e with
    | save hash id u => ((s.record? hash id).getD .blank).isBadActor u rules.minLeechers
    | drop _ _ _ => false := by
  cases e with
  | drop hash id provider => rfl
  | save hash id u => exact Store.save_fst rules h.sound h.clean hash id u

/-- An edit is flagged by the record that it finds, which edits of others do not touch. -/
theorem flag_exec (e : Edit) {d : Edit} (hne : e.key ≠ d.key) :
    d.flag rules (e.exec rules s) = d.flag rules s := by
  rw [flag_eq rules (h.edit rules e), flag_eq rules h]
  cases d with
  | drop hash id provider => rfl
  | save hash id u =>
      have hrecord := recordAs_exec_of_ne rules h e hne .peer
      rw [State.recordAs_peer, State.recordAs_peer] at hrecord
      dsimp only
      rw [hrecord]

theorem flags_eq {es : List Edit} (hkeys : (es.map key).Nodup) :
    flags rules s es = es.map fun e => (e, e.flag rules s) := by
  induction es generalizing s with
  | nil => rfl
  | cons e es ih =>
      rw [List.map_cons, List.nodup_cons] at hkeys
      rw [flags, ih (h.edit rules e) hkeys.2, List.map_cons]
      congr 1
      refine List.map_congr_left fun d hd => ?_
      have hne : e.key ≠ d.key := fun heq => hkeys.1 (heq ▸ List.mem_map_of_mem hd)
      rw [flag_exec rules h e hne]

end Edit

/-! ## Swarms that are alike -/

/-- The same records but for the incomplete peers that a peer's own remembers, and the same
counters. -/
structure Swarm.Alike (w v : Swarm) : Prop where
  peers : ∀ id, (w.peers.get? id).map Peer.forget = (v.peers.get? id).map Peer.forget
  providers : ∀ id, w.providers.get? id = v.providers.get? id
  complete : w.complete = v.complete
  incomplete : w.incomplete = v.incomplete
  retired : w.retired = v.retired

/-- Tables of records that are alike have the same bag, but for what is forgotten. -/
theorem Table.bag_forget_of_get? {t u : Table PeerId Peer}
    (h : ∀ id, (t.get? id).map Peer.forget = (u.get? id).map Peer.forget) :
    t.bag.map Peer.forget = u.bag.map Peer.forget := by
  rw [← bag_mapValues, ← bag_mapValues]
  refine bag_of_perm (perm_of_get? fun id => ?_) |>.symm
  rw [get?_mapValues, get?_mapValues, h id]

/-- Counting complete or incomplete records, it is nothing what they remember. -/
theorem countP_forget (ps : Multiset Peer) (c : Bool) :
    (ps.map Peer.forget).countP (fun p => p.complete = c) = ps.countP fun p => p.complete = c := by
  rw [Multiset.countP_map, Multiset.countP_eq_card_filter]
  rfl

/-- The counters of sound swarms follow from their records. -/
theorem Swarm.alike_of_records {w v : Swarm} (hw : w.Sound) (hv : v.Sound)
    (hpeers : ∀ id, (w.peers.get? id).map Peer.forget = (v.peers.get? id).map Peer.forget)
    (hproviders : ∀ id, w.providers.get? id = v.providers.get? id) : w.Alike v := by
  have htally : ∀ c, w.tally c = v.tally c := by
    intro c
    rw [tally, tally, ← countP_forget, Table.bag_forget_of_get? hpeers, countP_forget]
  have hcounter : ∀ c, w.counter c = v.counter c := by
    intro c
    rw [hw.counted c, hv.counted c, htally c]
  exact ⟨hpeers, hproviders, hcounter true, hcounter false, hw.live.trans hv.live.symm⟩

namespace State

variable {s t : State}

/-- Stores that are alike have the same crowd, but for what is forgotten. -/
theorem crowd_forget_of_alike
    (h : ∀ hash, Option.Rel Swarm.Alike (s.swarm? hash) (t.swarm? hash)) :
    (crowd s.swarms).map Peer.forget = (crowd t.swarms).map Peer.forget := by
  have hcrowd : ∀ t : Table InfoHash Swarm, (crowd t).map Peer.forget =
      (t.mapValues fun w => w.peers.bag.map Peer.forget).bag.join := by
    intro t
    rw [crowd, Multiset.map_bind, Table.bag_mapValues]
    rfl
  rw [hcrowd, hcrowd]
  congr 1
  refine Table.bag_of_perm (Table.perm_of_get? fun hash => ?_)
  rw [Table.get?_mapValues, Table.get?_mapValues]
  have hrel := h hash
  rw [swarm?, swarm?] at hrel
  generalize s.swarms.get? hash = a, t.swarms.get? hash = b at hrel ⊢
  cases hrel with
  | none => rfl
  | some halike => exact congrArg some (Table.bag_forget_of_get? halike.peers)

end State

/-! ## Totals -/

/-- Allowed actions have made this state of a fresh one. Between two of them the tables may be
found in another order, and the rest of the tracker may do its work. -/
inductive State.Evolves (rules : StoreRules) (Allowed : State → Action → Prop) : State → Prop where
  | fresh (limit : Nat) (random : RandomSource) : Evolves rules Allowed (.fresh limit random)
  | exec {s : State} (a : Action) :
      Evolves rules Allowed s → Allowed s a → Evolves rules Allowed (a.exec rules s)
  | reorder {s t : State} : Evolves rules Allowed s → s.Reordered t → Evolves rules Allowed t
  | steady {s t : State} : Evolves rules Allowed s → s.Steady t → Evolves rules Allowed t

namespace State.Evolves

variable {rules : StoreRules} {Allowed : State → Action → Prop} {s : State}

theorem arises (h : s.Evolves rules Allowed) : s.Arises rules Allowed := by
  induction h with
  | fresh limit random => exact .fresh limit random
  | exec a _ hallowed ih => exact ih.exec a hallowed
  | reorder _ hreordered ih => exact ih.reorder hreordered
  | steady _ hsteady ih => exact ih.elsewhere hsteady.sameStore

/-- What is parked is blank, since nothing but the store has to do with records. -/
theorem sane (h : s.Evolves rules Allowed) : s.Sane := by
  refine ⟨h.arises.sound, ?_⟩
  induction h with
  | fresh limit random => exact fun _ h => absurd h List.not_mem_nil
  | exec a _ _ ih => exact a.pools_exec Pools.peerStable_clean rules ih
  | reorder _ hreordered ih => exact hreordered.pools ▸ ih
  | steady _ hsteady ih =>
      intro x hx
      rw [hsteady.parked] at hx
      exact ih x hx

end State.Evolves

namespace Edit

variable {rules : StoreRules} {s : State}

/-- A peer has one record on a hash, so that an edit makes one more at the most. -/
theorem length_records_exec (rules : StoreRules) (h : s.Sane) (e : Edit) :
    (e.exec rules s).records.length ≤ s.records.length + 1 := by
  rw [← State.card_crowd, ← State.card_crowd]
  cases e with
  | save hash id u =>
      show (crowd (Store.save rules s hash id u).2.swarms).card ≤ _
      obtain ⟨t, ht⟩ := Store.save_swarms rules s hash id u
      rw [ht, crowd_insert, crowd_openSwarm h.sound hash, Swarm.savePeer_peers, Table.bag_insert,
        Multiset.card_add, Multiset.card_add, Multiset.card_cons]
      have herase := Multiset.card_le_card (Table.bag_erase_le (Store.openSwarm s hash).peers id)
      omega
  | drop hash id provider =>
      show (crowd (Store.drop rules s hash id provider).swarms).card ≤ _
      cases hw : s.swarm? hash with
      | none =>
          rw [Store.drop_of_none rules hw]
          exact Nat.le_succ _
      | some w =>
          rw [(Store.drop_spec rules hw id provider).1, crowd_insert, crowd_eq_add hw,
            Store.dropped, Swarm.remove_peers, Multiset.card_add, Multiset.card_add]
          have herase := Multiset.card_le_card (Table.bag_erase_le w.peers id)
          exact Nat.le_succ_of_le (Nat.add_le_add_right herase _)

theorem evolves_foldl (h : s.Evolves rules State.Any) (es : List Edit) :
    (es.foldl (exec rules) s).Evolves rules State.Any := by
  induction es generalizing s with
  | nil => exact h
  | cons e es ih => exact ih (h.exec (.command e.command) trivial)

theorem evolves_foldl_narrow (h : s.Evolves rules State.Narrow) (es : List Edit)
    (hroom : s.records.length + es.length ≤ 2 ^ 32) :
    (es.foldl (exec rules) s).Evolves rules State.Narrow := by
  induction es generalizing s with
  | nil => exact h
  | cons e es ih =>
      rw [List.length_cons] at hroom
      have hmore := length_records_exec rules h.sane e
      refine ih (h.exec (.command e.command) ?_) (by omega)
      show s.records.length < 2 ^ 32
      omega

theorem stats_foldl_of_fast (hfast : rules.fast = true) (es : List Edit) :
    (es.foldl (exec rules) s).stats = s.stats := by
  induction es generalizing s with
  | nil => rfl
  | cons e es ih =>
      rw [List.foldl_cons, ih]
      cases e with
      | save hash id u =>
          show s.stats.track rules.fast _ u.complete u.ip = s.stats
          rw [hfast]
          rfl
      | drop hash id provider =>
          show (Store.drop rules s hash id provider).stats = s.stats
          cases hw : s.swarm? hash with
          | none => rw [Store.drop_of_none rules hw]
          | some w =>
              rw [(Store.drop_spec rules hw id provider).2, hfast]
              cases w.peers.get? id <;> rfl

end Edit

/-! ## Any order -/

section Perm

variable {rules : StoreRules} {s : State} {es ds : List Edit}

theorem Edit.alike_of_perm (h : s.Sane) (hperm : es.Perm ds) (hkeys : (es.map key).Nodup)
    (hash : InfoHash) :
    Option.Rel Swarm.Alike ((es.foldl (exec rules) s).swarm? hash)
      ((ds.foldl (exec rules) s).swarm? hash) := by
  have hsome : ((es.foldl (exec rules) s).swarm? hash).isSome ↔
      ((ds.foldl (exec rules) s).swarm? hash).isSome := by
    rw [isSome_swarm?_foldl rules h, isSome_swarm?_foldl rules h]
    simp only [hperm.mem_iff]
  have hwritten : ∀ id role, (es.foldl (exec rules) s).written (hash, id) role =
      (ds.foldl (exec rules) s).written (hash, id) role := fun id role =>
    congrFun ((writesAt_written rules).foldl_perm hperm hkeys h (hash, id)) role
  have hsound := (sane_foldl rules h es).sound hash
  have hsound' := (sane_foldl rules h ds).sound hash
  simp only [State.written, State.record?, State.recordAs] at hwritten
  generalize (es.foldl (exec rules) s).swarm? hash = a, (ds.foldl (exec rules) s).swarm? hash = b
    at hsome hwritten hsound hsound' ⊢
  cases a with
  | none =>
      cases b with
      | none => exact .none
      | some v => simp at hsome
  | some w =>
      cases b with
      | none => simp at hsome
      | some v =>
          exact .some (Swarm.alike_of_records (hsound w rfl) (hsound' v rfl)
            (fun id => hwritten id .peer) fun id => hwritten id .provider)

/-- Sound totals follow from the records too. -/
theorem State.totals_of_alike {s t : State} (hs : s.CountsOnlyRecords) (ht : t.CountsOnlyRecords)
    (halike : ∀ hash, Option.Rel Swarm.Alike (s.swarm? hash) (t.swarm? hash)) (complete : Bool) :
    s.stats.read (Stats.kind complete) = t.stats.read (Stats.kind complete) := by
  rw [hs.kinds, ht.kinds, ← countP_forget, crowd_forget_of_alike halike, countP_forget]

theorem State.addresses_of_alike {s t : State} (hs : s.Balanced) (ht : t.Balanced)
    (halike : ∀ hash, Option.Rel Swarm.Alike (s.swarm? hash) (t.swarm? hash)) (ip : Net.IpAddr) :
    s.stats.addresses.get? ip = t.stats.addresses.get? ip := by
  have hips : ∀ ps : Multiset Peer, ps.map Peer.ip = (ps.map Peer.forget).map Peer.ip := by
    intro ps
    rw [Multiset.map_map]
    rfl
  have hsame : (crowd s.swarms).map Peer.ip = (crowd t.swarms).map Peer.ip := by
    rw [hips, crowd_forget_of_alike halike, ← hips]
  rw [hs.addresses ip, ht.addresses ip, hsame]

/-- **Edits of different peers commute.** Edits of pairwise different peers, hash by hash, made
in any order on any store that comes about, end with swarms that are alike: the same ones, with
the same records but for the incomplete peers that a peer's own remembers, and the same counters.
The totals of complete and of incomplete peers are the same, and so is the count of every
address, unless its bookkeeping may have wrapped. Each save is flagged alike. If the hashes are
pairwise different, the swarms are equal. -/
theorem edits_commute (rules : StoreRules) {s : State} (hs : s.Evolves rules State.Any)
    {es ds : List Edit} (hperm : es.Perm ds) (hkeys : (es.map Edit.key).Nodup) :
    let one := es.foldl (Edit.exec rules) s
    let other := ds.foldl (Edit.exec rules) s
    (∀ hash, Option.Rel Swarm.Alike (one.swarm? hash) (other.swarm? hash)) ∧
      one.stats.seeds = other.stats.seeds ∧ one.stats.leeches = other.stats.leeches ∧
      ((rules.fast = false →
          s.Evolves rules State.Narrow ∧ s.records.length + es.length ≤ 2 ^ 32) →
        ∀ ip, one.stats.addresses.get? ip = other.stats.addresses.get? ip) ∧
      (Edit.flags rules s es).Perm (Edit.flags rules s ds) ∧
      ((es.map Edit.hash).Nodup → ∀ hash, one.swarm? hash = other.swarm? hash) := by
  intro one other
  have halike : ∀ hash, Option.Rel Swarm.Alike (one.swarm? hash) (other.swarm? hash) :=
    Edit.alike_of_perm hs.sane hperm hkeys
  have htotals : ∀ complete,
      one.stats.read (Stats.kind complete) = other.stats.read (Stats.kind complete) := by
    cases hfast : rules.fast with
    | true =>
        intro complete
        rw [Edit.stats_foldl_of_fast hfast, Edit.stats_foldl_of_fast hfast]
    | false =>
        exact State.totals_of_alike
          ((Edit.evolves_foldl hs es).arises.countsOnlyRecords hfast).2
          ((Edit.evolves_foldl hs ds).arises.countsOnlyRecords hfast).2 halike
  refine ⟨halike, htotals true, htotals false, ?_, ?_, ?_⟩
  · intro hroom
    cases hfast : rules.fast with
    | true =>
        intro ip
        rw [Edit.stats_foldl_of_fast hfast, Edit.stats_foldl_of_fast hfast]
    | false =>
        obtain ⟨hnarrow, hone⟩ := hroom hfast
        have hother : s.records.length + ds.length ≤ 2 ^ 32 := hperm.length_eq ▸ hone
        exact State.addresses_of_alike
          ((Edit.evolves_foldl_narrow hnarrow es hone).arises.balanced hfast).2
          ((Edit.evolves_foldl_narrow hnarrow ds hother).arises.balanced hfast).2 halike
  · have hkeys' : (ds.map Edit.key).Nodup := (hperm.map Edit.key).nodup_iff.mp hkeys
    rw [Edit.flags_eq rules hs.sane hkeys, Edit.flags_eq rules hs.sane hkeys']
    exact hperm.map _
  · exact fun hhashes => (Edit.writesAt_swarm? rules).foldl_perm hperm hhashes hs.sane

end Perm

/-- Two peers join a swarm: whoever comes second remembers both, so that the swarms are alike
and no more. -/
theorem edits_commute_two_saves :
    let rules : StoreRules := ⟨2, false⟩
    let s := State.fresh 50 (.ofList [])
    let es := [Edit.save .zero .zero (sampleReport false 1),
      Edit.save .zero otherId (sampleReport false 2)]
    let one := es.foldl (Edit.exec rules) s
    let other := es.reverse.foldl (Edit.exec rules) s
    s.Evolves rules State.Any ∧ es.Perm es.reverse ∧ (es.map Edit.key).Nodup ∧
      Option.Rel Swarm.Alike (one.swarm? .zero) (other.swarm? .zero) ∧
      one.stats.leeches = other.stats.leeches ∧
      one.stats.addresses.get? .unspecified = other.stats.addresses.get? .unspecified ∧
      one.stats.addresses.get? .unspecified = some 2 ∧
      one.swarm? .zero ≠ other.swarm? .zero := by
  intro rules s es one other
  have hs : s.Evolves rules State.Any := .fresh 50 _
  have hkeys : (es.map Edit.key).Nodup := by decide
  obtain ⟨halike, -, hleeches, haddresses, -, -⟩ :=
    edits_commute rules hs es.reverse_perm.symm hkeys
  refine ⟨hs, es.reverse_perm.symm, hkeys, halike .zero, hleeches, ?_, ?_, ?_⟩
  · exact haddresses (fun _ => ⟨.fresh 50 _, by decide⟩) .unspecified
  · decide +kernel
  · decide +kernel

end PeerTracker
