import PeerTracker.Proofs.Stops

/-!
# Hints that can be trusted

Every word of an announce is its sender's choice. What ends up on record is checked all
the same: a port that is not zero, an address in its canonical form, and a record as a
provider for the endpoint of a configured provider only. Commands write nothing else
(`Command.Checked`), and what they write is all that ever comes on record (`get?_saved_cases`
and the lemmas beside it), so that it is so of every record (`State.Checked`). The hint of a
reply is one record of this kind, the one that a random number points at.
-/

namespace PeerTracker

/-! ## Who asks the source of random numbers -/

namespace Store

theorem random_foldl_release (fast : Bool) (ps : List Peer) (s : State) :
    (ps.foldl (State.release fast) s).random = s.random := by
  induction ps generalizing s with
  | nil => rfl
  | cons p ps ih => exact ih (s.release fast p)

variable (rules : StoreRules) (s : State)

theorem random_drop (hash : InfoHash) (id : PeerId) (provider : Bool) :
    (drop rules s hash id provider).random = s.random := by
  cases hw : s.swarm? hash with
  | none => rw [drop_of_none rules hw]
  | some w =>
      rw [drop_eq rules hw]
      exact random_foldl_release rules.fast _ _

theorem random_trim (now timeout : Int64) : (trim rules s now timeout).2.random = s.random := by
  refine trim_induction (P := fun t => t.random = s.random) rules now timeout ?_ s rfl
  intro acc hash w hacc _
  have hgone := (random_foldl_release rules.fast (expire now timeout w).2.1 acc.2).trans hacc
  simp only [trimHash, trimSwarm]
  split <;> exact hgone

theorem random_foldl_loadPeer (fast : Bool) (rs : List Snapshot.PeerRecord)
    (acc : Swarm × State) : (rs.foldl (loadPeer fast) acc).2.random = acc.2.random := by
  induction rs generalizing acc with
  | nil => rfl
  | cons r rs ih =>
      refine (ih _).trans ?_
      unfold loadPeer
      dsimp only
      split <;> rfl

theorem random_foldl_loadProvider (rs : List Snapshot.PeerRecord) (acc : Swarm × State) :
    (rs.foldl loadProvider acc).2.random = acc.2.random := by
  induction rs generalizing acc with
  | nil => rfl
  | cons r rs ih => exact ih (loadProvider acc r)

theorem random_loadEntry (acc : (Nat × Nat) × State) (r : Snapshot.SwarmRecord) :
    (loadEntry rules.fast acc r).2.random = acc.2.random := by
  have hpeers := random_foldl_loadPeer rules.fast r.peers (∅, acc.2)
  have hassembled : (assembled rules.fast acc.2 r).random = acc.2.random :=
    (random_foldl_loadProvider r.providers _).trans hpeers
  rw [loadEntry_snd]
  split
  · exact hpeers
  · unfold replace
    split
    · exact hassembled
    · exact (random_foldl_release rules.fast _ _).trans hassembled

end Store

/-- The store needs no random numbers to change. -/
theorem Action.random_exec (rules : StoreRules) (s : State) (a : Action) :
    (a.exec rules s).random = s.random := by
  cases a with
  | entry r => exact Store.random_loadEntry rules ((0, 0), s) r
  | command c =>
      cases c with
      | save hash id u => rfl
      | drop hash id provider => exact Store.random_drop rules s hash id provider
      | trim now timeout => exact Store.random_trim rules s now timeout

/-- A source answers by one rule, whatever the tracker does. -/
theorem Leads.source {rules : Rules} {Allowed : Demand → Prop} {s t : State}
    (h : Leads rules Allowed s t) : t.random.answer = s.random.answer := by
  refine h.keeps (P := fun t => t.random.answer = s.random.answer) ?_ ?_ ?_ rfl
  · exact fun _ _ hsteady ht => hsteady.source.trans ht
  · exact fun t _ _ a _ ht => (congrArg RandomSource.answer (a.random_exec rules.store t)).trans ht
  · exact fun _ _ hreordered ht => (congrArg RandomSource.answer hreordered.random).trans ht

namespace RandomSource

theorem Fair.congr {r r' : RandomSource} (h : r.Fair) (hanswer : r'.answer = r.answer) :
    r'.Fair := by
  intro asked bound hbound
  rw [hanswer]
  exact h asked bound hbound

/-- A fair source picks from any table that is not empty. A size that does not fit wraps,
and is then larger than any number that is drawn. -/
theorem Fair.draw_lt {r : RandomSource} (h : r.Fair) {n : Nat} (hn : n ≠ 0) :
    (r.below (UInt64.ofNat n)).1.toNat < n := by
  by_cases hfits : n < UInt64.size
  · have hbound : (UInt64.ofNat n).toNat = n := UInt64.toNat_ofNat_of_lt' hfits
    have hpos : 0 < UInt64.ofNat n := by
      rw [UInt64.lt_iff_toNat_lt, hbound]
      exact Nat.pos_of_ne_zero hn
    have hlt := UInt64.lt_iff_toNat_lt.mp (h r.asked (UInt64.ofNat n) hpos)
    rwa [hbound] at hlt
  · exact Nat.lt_of_lt_of_le (UInt64.toNat_lt_size _) (Nat.le_of_not_lt hfits)

end RandomSource

/-! ## What comes on record -/

/-- A peer's record can be announced to others, and a provider's is that of a provider. -/
def Peer.CheckedAs (providers : List Net.Endpoint) : Role → Peer → Prop
  | .peer, p => p.port ≠ 0 ∧ p.ip.canonical = p.ip
  | .provider, p => ⟨p.ip, p.port, 0⟩ ∈ providers

/-- It is so of every record. -/
def State.Checked (providers : List Net.Endpoint) (s : State) : Prop :=
  ∀ role hash id p, s.recordAs role hash id = some p → p.CheckedAs providers role

/-- A report gives rise to such records only. -/
structure Update.Checked (providers : List Net.Endpoint) (u : Update) : Prop where
  port : u.port ≠ 0
  ip : u.ip.canonical = u.ip
  provider : u.provider = true → ⟨u.ip, u.port, 0⟩ ∈ providers

def Command.Checked (providers : List Net.Endpoint) : Command → Prop
  | save _ _ u => u.Checked providers
  | drop _ _ _ => True
  | trim _ _ => True

theorem Update.Checked.apply {providers : List Net.Endpoint} {u : Update}
    (h : u.Checked providers) (p : Peer) {role : Role} (hrole : role = .provider → u.provider) :
    (p.apply u).CheckedAs providers role := by
  cases role with
  | peer => exact ⟨h.port, h.ip⟩
  | provider => exact h.provider (hrole rfl)

namespace Swarm

variable {providers : List Net.Endpoint} {role : Role} {id : PeerId} {p : Peer}

/-- What a save leaves was there, or is what the report says. -/
theorem get?_saved_cases {w : Swarm} {i : PeerId} {old : Peer} {u : Update} {pools : Pools}
    (hu : u.Checked providers)
    (h : ((Store.saveProvider (Store.savePeer w i old u) i u pools).1.table role).get? id =
      some p) : (w.table role).get? id = some p ∨ p.CheckedAs providers role := by
  by_cases hid : id = i
  · subst hid
    cases role with
    | peer =>
        obtain ⟨t, ht⟩ := Store.saveProvider_eq (Store.savePeer w id old u) id u pools
        rw [ht] at h
        change (Store.savePeer w id old u).peers.get? id = some p at h
        rw [savePeer_peers, Table.get?_insert_self, Option.some.injEq] at h
        subst h
        have happlied : (old.apply u).CheckedAs providers .peer := hu.apply old nofun
        exact .inr happlied
    | provider =>
        change (Store.saveProvider _ id u pools).1.providers.get? id = some p at h
        unfold Store.saveProvider at h
        split at h
        · next hprovider =>
          rw [Table.get?_insert_self, Option.some.injEq] at h
          subst h
          exact .inr (hu.apply _ fun _ => hprovider)
        · rw [Store.savePeer, (sameRecords_recount w id u.complete).providers] at h
          exact .inl h
  · rw [get?_saved hid] at h
    exact .inl h

end Swarm

section Exec

variable {providers : List Net.Endpoint} {rules : StoreRules} {s : State}

/-- The swarm that a save goes to has records of the store. -/
theorem Store.recordAs_of_openSwarm {role : Role} {hash : InfoHash} {id : PeerId} {p : Peer}
    (h : ((openSwarm s hash).table role).get? id = some p) :
    s.recordAs role hash id = some p := by
  unfold openSwarm at h
  split at h
  · next w hw =>
    split at h
    · cases role <;> cases h
    · rw [State.recordAs_eq hw]
      exact h
  · cases role <;> cases h

/-- Checked commands keep records checked. -/
theorem State.Checked.exec (hs : s.Checked providers) {c : Command} (hc : c.Checked providers) :
    (c.exec rules s).Checked providers := by
  intro role hash id p hp
  cases c with
  | save h i u =>
      rw [recordAs, swarm?, Command.exec] at hp
      change ((s.swarms.insert h _).get? hash).bind _ = _ at hp
      rw [Table.get?_insert] at hp
      split at hp
      · next heq =>
        subst heq
        rcases Swarm.get?_saved_cases hc hp with hold | hnew
        · exact hs role hash id p (Store.recordAs_of_openSwarm hold)
        · exact hnew
      · exact hs role hash id p hp
  | drop h i provider =>
      exact hs role hash id p (Store.recordAs_of_drop hp)
  | trim now timeout =>
      exact hs role hash id p (Store.recordAs_of_trim hp)

end Exec

theorem State.Steady.checked {providers : List Net.Endpoint} {s t : State} (h : s.Steady t)
    (hs : s.Checked providers) : t.Checked providers := by
  intro role hash id p hp
  rw [h.recordAs_eq] at hp
  exact hs role hash id p hp

theorem State.Reordered.checked {providers : List Net.Endpoint} {s t : State} (h : s.Reordered t)
    (hs : s.Checked providers) : t.Checked providers := by
  intro role hash id p hp
  rw [h.recordAs_eq] at hp
  exact hs role hash id p hp

theorem State.checked_fresh (providers : List Net.Endpoint) (limit : Nat)
    (random : RandomSource) : (fresh limit random).Checked providers := by
  intro role hash id p hp
  cases hp

/-! ## What demands write -/

/-- Whatever an announce says, what it makes of its peer is checked. -/
theorem Announce.checked_update (r : Rules) (q : Announcement) {port : UInt16}
    (hport : port? q.port = some port) (now : Int64) :
    (update q q.ip.canonical port (r.isProvider q.ip.canonical port) now).Checked
      r.providers where
  port := port?_ne_zero hport
  ip := q.ip.canonical_canonical
  provider := Rules.isProvider_iff.mp

theorem Announce.actions_checked {r : Rules} {q : Announcement} {now : Int64} :
    ∀ a ∈ actions r q now, ∃ c, a = .command c ∧ c.Checked r.providers := by
  intro a ha
  unfold actions at ha
  cases hintent : intent r q now with
  | error e =>
      rw [hintent] at ha
      cases ha
  | ok i =>
      rw [hintent, List.mem_singleton] at ha
      refine ⟨_, ha, ?_⟩
      cases i with
      | stop hash id provider => trivial
      | join hash id u wanted =>
          obtain ⟨-, -, -, port, hport, -, rfl⟩ := intent_eq_join_iff.mp hintent
          exact checked_update r q hport now

/-- Everything but to restore a snapshot, which may hold any records. -/
def Demand.Serves : Demand → Prop
  | restore _ => False
  | _ => True

theorem Demand.actions_checked {rules : Rules} {d : Demand} (h : d.Serves) :
    ∀ a ∈ d.actions rules, ∃ c, a = .command c ∧ c.Checked rules.providers := by
  intro a ha
  have hannounced : ∀ q? : Option (Announcement × Int64),
      a ∈ q?.elim [] (fun x => Announce.actions rules x.1 x.2) →
      ∃ c, a = .command c ∧ c.Checked rules.providers := by
    intro q? ha
    cases q? with
    | none => cases ha
    | some x => exact Announce.actions_checked a ha
  cases d with
  | announce q now recycled => exact hannounced (some (q, now)) ha
  | scrape hashes => cases ha
  | overflow => cases ha
  | web realIp r now => exact hannounced ((Http.announcement? realIp r).map (·, now)) ha
  | datagram remote usePayloadIp now bs =>
      exact hannounced
        ((Udp.announcement? rules remote usePayloadIp now bs).map (·, now)) ha
  | sweep now => exact ⟨_, List.mem_singleton.mp ha, trivial⟩
  | restore bs => cases h

theorem Leads.checked {rules : Rules} {s t : State} (h : Leads rules Demand.Serves s t)
    (hs : s.Checked rules.providers) : t.Checked rules.providers := by
  refine h.keeps (P := State.Checked rules.providers) ?_ ?_ ?_ hs
  · exact fun _ _ hsteady => hsteady.checked
  · intro s d hd a ha hs
    obtain ⟨c, rfl, hc⟩ := Demand.actions_checked hd a ha
    exact hs.exec hc
  · exact fun _ _ hreordered => hreordered.checked

/-! ## The hint of a reply -/

/-- The hint is this record in the form that was asked for: the octets of the record and
no others, or a dictionary. -/
structure Hint.Names (compact withIds : Bool) (e : PeerId × Peer) (h : Hint) : Prop where
  form : h.isCompact = compact
  shows : h.Shows withIds e
  width : ∀ b, h = .compact b → b.bytes.length = if e.2.ip.isV4 then 6 else 18

theorem isSome_of_rel {α β : Type} {R : α → β → Prop} {a : Option α} {b : Option β}
    (h : Option.Rel R a b) : b.isSome ↔ a.isSome := by
  cases h with
  | none => exact Iff.rfl
  | some => exact Iff.rfl

namespace Announce

/-- The announce comes from a provider that has everything. -/
def Exempt (providers : List Net.Endpoint) (q : Announcement) (port : UInt16) : Prop :=
  ⟨q.ip.canonical, port, 0⟩ ∈ providers ∧ (q.event = .completed ∨ q.left = some 0)

/-- The record of a table that the next number from the source points at. -/
def pointed (w : Swarm) (source : RandomSource) : Option (PeerId × Peer) :=
  w.providers.entries[(source.below (UInt64.ofNat w.providers.size)).1.toNat]?

theorem exempt_iff (r : Rules) (q : Announcement) (port : UInt16) (now : Int64) :
    let u := update q q.ip.canonical port (r.isProvider q.ip.canonical port) now
    (u.provider && u.complete) = true ↔ Exempt r.providers q port := by
  intro u
  rw [Bool.and_eq_true, Exempt]
  refine and_congr Rules.isProvider_iff ?_
  show (q.event = .completed || q.left = some 0 : Bool) = true ↔ _
  rw [Bool.or_eq_true, decide_eq_true_eq, decide_eq_true_eq]

theorem random_listing (q : Announcement) (s : State) (hash : InfoHash) (wanted : Nat) :
    (listing q s hash wanted).2.random = s.random := by
  unfold listing
  split <;> rfl

end Announce

theorem Store.pickProvider_eq {s : State} {hash : InfoHash} {w : Swarm}
    (hw : s.swarm? hash = some w) :
    (pickProvider s hash).1 = Announce.pointed w s.random := by
  simp only [pickProvider, hw]
  split
  · next hempty =>
    rw [Announce.pointed, List.isEmpty_iff.mp hempty]
    rfl
  · rfl

/-- A hint is the record that the source points at. -/
theorem Store.baselineProvider_spec {s : State} {limit : Nat} (hrestored : s.pools.Restored limit)
    {hash : InfoHash} {w : Swarm} (hw : s.swarm? hash = some w) (compact withIds : Bool) :
    Option.Rel (Hint.Names compact withIds) (Announce.pointed w s.random)
      (baselineProvider s hash compact withIds).1 := by
  have hpick := pickProvider_eq hw
  have hpools := pickProvider_pools s hash
  rw [← hpick]
  unfold baselineProvider
  generalize pickProvider s hash = picked at hpools
  obtain ⟨e?, s'⟩ := picked
  cases e? with
  | none => exact .none
  | some e =>
      change s'.pools = s.pools at hpools
      cases compact with
      | false => exact .some ⟨rfl, rfl, nofun⟩
      | true =>
          refine .some ⟨rfl, ?_, ?_⟩
          · show s'.pools.getHint.1.bytes ++ e.2.compact = e.2.compact
            rw [hpools, hrestored.getHint.1]
            rfl
          · intro b hb
            cases hb
            show (s'.pools.getHint.1.bytes ++ e.2.compact).length = _
            rw [hpools, hrestored.getHint.1]
            exact e.2.length_compact

/-- What the hint of a reply is, given the swarm and the source that it is picked with: the
record that the source points at, and none if the announce is exempt. -/
structure AnnounceResult.Hinted (providers : List Net.Endpoint) (q : Announcement)
    (port : UInt16) (w : Swarm) (source : RandomSource) (reply : AnnounceResult) : Prop where
  picks : reply.hint.isSome ↔
    (source.below (UInt64.ofNat w.providers.size)).1.toNat < w.providers.size ∧
      ¬Announce.Exempt providers q port
  fair : source.Fair →
    (reply.hint.isSome ↔ w.providers.size ≠ 0 ∧ ¬Announce.Exempt providers q port)
  names : ∀ hint, reply.hint = some hint →
    ∃ e, Announce.pointed w source = some e ∧ e ∈ w.providers.entries ∧
      hint.Names q.compact (!q.noPeerId) e ∧ ⟨e.2.ip, e.2.port, 0⟩ ∈ providers

/-- A reply that is gathered from checked records has such a hint. -/
theorem Announce.hinted_answer {r : Rules} {q : Announcement} {port : UInt16} {now : Int64}
    {hash : InfoHash} {wanted : Nat} {badActor : Bool} {s : State} {limit : Nat}
    (hrestored : s.pools.Restored limit) (hs : s.Checked r.providers) {w : Swarm}
    (hw : s.swarm? hash = some w) :
    (answer r q hash (update q q.ip.canonical port (r.isProvider q.ip.canonical port) now) wanted
      badActor s).1.Hinted r.providers q port w s.random := by
  set u := update q q.ip.canonical port (r.isProvider q.ip.canonical port) now
  -- the list that is written first leaves the swarm and the source as they are
  have hlisting := steady_listing q hash wanted s
  have hhint := Store.baselineProvider_spec (hlisting.restored limit hrestored)
    ((hlisting.swarm?_eq hash).trans hw) q.compact (!q.noPeerId)
  rw [random_listing] at hhint
  have hreply : (answer r q hash u wanted badActor s).1.hint =
      if u.provider && u.complete then none
      else (Store.baselineProvider (listing q s hash wanted).2 hash q.compact (!q.noPeerId)).1 := by
    show (hint q (listing q s hash wanted).2 hash u).1 = _
    unfold hint
    split <;> rfl
  have hexempt : (u.provider && u.complete) = true ↔ Exempt r.providers q port :=
    exempt_iff r q port now
  have hpicks : (answer r q hash u wanted badActor s).1.hint.isSome ↔
      (s.random.below (UInt64.ofNat w.providers.size)).1.toNat < w.providers.size ∧
        ¬Exempt r.providers q port := by
    rw [hreply, ← hexempt]
    split
    · next h => simp [h]
    · next h =>
      have hpointed : (pointed w s.random).isSome ↔
          (s.random.below (UInt64.ofNat w.providers.size)).1.toNat < w.providers.size := by
        rw [Option.isSome_iff_exists]
        exact ⟨fun ⟨_, he⟩ => (List.getElem?_eq_some_iff.mp he).1,
          fun hlt => ⟨_, List.getElem?_eq_getElem hlt⟩⟩
      rw [← hpointed, ← isSome_of_rel hhint]
      exact (and_iff_left h).symm
  refine ⟨hpicks, fun hfair => ?_, ?_⟩
  · rw [hpicks]
    exact and_congr_left fun _ => ⟨fun hlt => Nat.ne_zero_of_lt hlt, hfair.draw_lt⟩
  · intro hint hhint'
    rw [hreply] at hhint'
    split at hhint'
    · cases hhint'
    · rw [hhint'] at hhint
      generalize hpointed : pointed w s.random = pointed? at hhint
      cases hhint with
      | some hnames =>
          next e =>
          have he : e ∈ w.providers.entries := List.mem_of_getElem? hpointed
          refine ⟨e, rfl, he, hnames, hs .provider hash e.1 e.2 ?_⟩
          rw [State.recordAs_eq hw]
          exact (Table.get?_eq_some_iff _ _ _).mpr he

/-- **Hints can be trusted.** Wherever announces of all kinds, scrapes and sweeps lead a fresh
tracker, and in whatever order it comes upon its tables: every peer on record has a port other
than zero and a canonical address, and every provider on record has the address and port of a
configured provider. An announce that is answered with a reply names a hash, a peer and a port;
the reply is gathered once the peer is saved, and has a hint just if the random number points
at a provider of that swarm, which a fair source does if there is one, and the announce is not
that of a provider that has everything. The hint is that provider in the form asked for. -/
theorem hints_can_be_trusted (settings : Settings) (secret : Bytes) (random : RandomSource)
    {s : State}
    (hs : Leads (.ofSettings settings secret) Demand.Serves (.ofSettings settings random) s) :
    (∀ hash id p, s.recordAs .peer hash id = some p → p.port ≠ 0 ∧ p.ip.canonical = p.ip) ∧
      (∀ hash id p, s.recordAs .provider hash id = some p →
        ⟨p.ip, p.port, 0⟩ ∈ settings.providers) ∧
      ∀ q now reply s',
        announce (.ofSettings settings secret) q now s = (.ok (.announced reply), s') →
        let rules := Rules.ofSettings settings secret
        ∃ hash id port wanted, q.infoHash = hash.bytes ∧ q.peerId = id.bytes ∧
          Announce.port? q.port = some port ∧
          let u := Announce.update q q.ip.canonical port (rules.isProvider q.ip.canonical port) now
          let enrolled := Announce.enroll rules (s.count .announces 1) hash id u
          Announce.answer rules q hash u wanted enrolled.1 enrolled.2 = (reply, s') ∧
            ∀ t, enrolled.2.Reordered t → (random.Fair → t.random.Fair) ∧
              ∃ w, t.swarm? hash = some w ∧
                (Announce.answer rules q hash u wanted enrolled.1 t).1.Hinted settings.providers q
                  port w t.random := by
  have hchecked : s.Checked settings.providers := Leads.checked hs (State.checked_fresh _ _ random)
  refine ⟨hchecked .peer, hchecked .provider, ?_⟩
  intro q now reply s' h rules
  obtain ⟨hash, id, u, wanted, hintent⟩ := intent_of_announced (congrArg Prod.fst h)
  obtain ⟨hhash, hid, -, port, hport, -, rfl⟩ := Announce.intent_eq_join_iff.mp hintent
  rw [announce_of_join hintent, Prod.mk.injEq] at h
  obtain ⟨hreply, hs'⟩ := h
  cases hreply
  refine ⟨hash, id, port, wanted, hhash, hid, hport, ?_⟩
  intro u enrolled
  refine ⟨Prod.ext rfl hs', fun t ht => ?_⟩
  have hcount : s.Steady (s.count .announces 1) := .count s (by decide) _
  have henroll := Announce.steady_enroll rules (s.count .announces 1) hash id u
  have hrestored := Announce.restored_enroll rules hash id u
    (hcount.restored _ (hs.restored (Pools.restored_fresh _)))
  have hsave : Command.Checked settings.providers (.save hash id u) :=
    Announce.checked_update rules q hport now
  have hsaved := henroll.checked (State.Checked.exec (hcount.checked hchecked) hsave)
  obtain ⟨w, hw, -⟩ := Announce.swarm?_enroll rules hash id u (s.count .announces 1)
  obtain ⟨v, hv, -⟩ := ht.of_swarm? hw
  refine ⟨fun hfair => hfair.congr ?_, v, hv, ?_⟩
  · rw [ht.random]
    exact henroll.source.trans hs.source
  · exact Announce.hinted_answer (r := rules) (ht.pools ▸ hrestored) (ht.checked hsaved) hv

/-- The peer that joins after a provider is told of both, and of the provider once more in
the hint, which is that of a configured one. -/
theorem hints_can_be_trusted_second :
    let rules := Rules.ofSettings sampleSettings []
    let start := State.ofSettings sampleSettings (.ofList [3])
    let s := (Demand.announce (sampleAnnouncement .zero) 1 true).exec rules start
    let other := { sampleAnnouncement otherId with port := 1 }
    let reply : AnnounceResult := ⟨1803, 2, 0,
      .compact ⟨[10, 0, 0, 1, 0x1A, 0xE1, 10, 0, 0, 1, 0, 1], 600⟩ ⟨[], 1800⟩,
      some (.compact ⟨[10, 0, 0, 1, 0x1A, 0xE1], 18⟩), false⟩
    Leads rules Demand.Serves start s ∧ (s.recordAs .provider .zero .zero).isSome ∧
      ∃ s', ∃ w : Swarm, ∃ e, announce rules other 2 s = (.ok (.announced reply), s') ∧
        e ∈ w.providers.entries ∧
        Hint.Names true true e (.compact ⟨[10, 0, 0, 1, 0x1A, 0xE1], 18⟩) ∧
        ⟨e.2.ip, e.2.port, 0⟩ ∈ sampleSettings.providers := by
  intro rules start s other reply
  have hs : Leads rules Demand.Serves start s := .serve _ .refl trivial
  have houtcome : (announce rules other 2 s).1 = .ok (.announced reply) := by decide +kernel
  obtain ⟨s', h⟩ : ∃ s', announce rules other 2 s = (.ok (.announced reply), s') := by
    generalize announce rules other 2 s = out at houtcome ⊢
    exact ⟨out.2, Prod.ext houtcome rfl⟩
  obtain ⟨-, -, hhints⟩ := hints_can_be_trusted sampleSettings [] (.ofList [3]) hs
  obtain ⟨hash, id, port, wanted, -, -, -, hanswer, hhinted⟩ := hhints other 2 reply s' h
  obtain ⟨-, w, -, hreply⟩ := hhinted _ (.refl _)
  rw [hanswer] at hreply
  obtain ⟨e, -, he, hnames, hprovider⟩ := hreply.names _ rfl
  exact ⟨hs, by decide +kernel, s', w, e, h, he, hnames, hprovider⟩

end PeerTracker
