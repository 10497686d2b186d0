import PeerTracker.Proofs.Datagrams

/-!
# Reply buffers over a run of datagrams

A peer that joins is answered from two buffers, one of each family, and both come back: one
when the reply is made, the other when it has been sent. The reply to a peer that stops is
made of a buffer that no pool gave out, and comes back all the same. So the idle buffers of
a family are those that stops have left, and one more if there was a buffer to take before
(`idleAfter`). `Asked` is all that counts of a datagram here, and `idleLists_exchange` is
the one step.
-/

namespace PeerTracker

/-! ## Idle buffers -/

namespace Pools

/-- How many buffers for peers of a family are idle. -/
def idleLists (v4 : Bool) (p : Pools) : Nat := if v4 then p.lists4.size else p.lists6.size

variable (v4 : Bool) (p : Pools)

theorem idleLists_getLists : p.getList4.2.getList6.2.idleLists v4 = p.idleLists v4 - 1 := by
  cases v4 with
  | true => exact p.lists4.size_get _
  | false => exact p.lists6.size_get _

theorem idleLists_putList4 (b : Buffer) :
    (p.putList4 b).idleLists v4 = p.idleLists v4 + if v4 then 1 else 0 := by
  cases v4 with
  | true => exact p.lists4.size_put _ b
  | false => rfl

theorem idleLists_putList6 (b : Buffer) :
    (p.putList6 b).idleLists v4 = p.idleLists v4 + if v4 then 0 else 1 := by
  cases v4 with
  | true => rfl
  | false => exact p.lists6.size_put _ b

theorem idleLists_getHint : p.getHint.2.idleLists v4 = p.idleLists v4 := by
  cases v4 <;> rfl

theorem idleLists_putHint (b : Buffer) : (p.putHint b).idleLists v4 = p.idleLists v4 := by
  cases v4 <;> rfl

/-- The store has nothing to do with buffers. -/
theorem peerStable_idleLists (n : Nat) : PeerStable fun p => p.idleLists v4 = n where
  get p h := by
    rw [← h]
    cases v4 <;> rfl
  put p x h := by
    rw [← h]
    cases v4 <;> rfl

end Pools

/-! ## Announces -/

section Announce

open Announce

variable (v4 : Bool) (r : Rules) {q : Announcement} (hash : InfoHash) (u : Update) (s : State)

theorem idleLists_enroll (id : PeerId) :
    (enroll r s hash id u).2.pools.idleLists v4 = s.pools.idleLists v4 := by
  have hsave : (Store.save r.store s hash id u).2.pools.idleLists v4 = s.pools.idleLists v4 :=
    Store.pools_save (Pools.peerStable_idleLists v4 _) r.store rfl hash id u
  show (if (Store.save r.store s hash id u).1 then _ else _ : State).pools.idleLists v4 = _
  split
  · exact hsave
  · exact hsave

theorem idleLists_hint :
    (hint q s hash u).2.pools.idleLists v4 = s.pools.idleLists v4 := by
  have hpick := Store.pickProvider_pools s hash
  unfold hint
  split
  · rfl
  · unfold Store.baselineProvider
    split
    · next heq =>
      rw [heq] at hpick
      exact congrArg _ hpick
    · next heq =>
      rw [heq] at hpick
      split
      · rw [← hpick]
        exact Pools.idleLists_getHint v4 _
      · exact congrArg _ hpick

theorem pools_interval : (interval r s).2.pools = s.pools := by
  unfold interval
  split <;> rfl

/-- A compact reply has taken a buffer of each family. -/
theorem idleLists_answer (hcompact : q.compact = true) (wanted : Nat) (badActor : Bool) :
    (∃ b4 b6, (answer r q hash u wanted badActor s).1.peers = .compact b4 b6) ∧
      (answer r q hash u wanted badActor s).2.pools.idleLists v4 =
        s.pools.idleLists v4 - 1 := by
  have hlisting : (∃ b4 b6, (listing q s hash wanted).1 = .compact b4 b6) ∧
      (listing q s hash wanted).2.pools = s.pools.getList4.2.getList6.2 := by
    unfold listing
    rw [if_pos hcompact]
    exact ⟨⟨_, _, rfl⟩, rfl⟩
  refine ⟨hlisting.1, ?_⟩
  show (interval r (hint q (listing q s hash wanted).2 hash u).2).2.pools.idleLists v4 = _
  rw [pools_interval, idleLists_hint, hlisting.2, Pools.idleLists_getLists]

/-- Of the two buffers of a compact reply one stays with it. -/
theorem idleLists_intoCompact {reply : AnnounceResult} {b4 b6 : Buffer}
    (h : reply.peers = .compact b4 b6) (family : Bool) (p : Pools) :
    (reply.intoCompact family p).2.idleLists v4 =
      p.idleLists v4 + if v4 = family then 0 else 1 := by
  have hhint : (reply.recycleHint p).idleLists v4 = p.idleLists v4 := by
    unfold AnnounceResult.recycleHint
    split
    · exact p.idleLists_putHint v4 _
    · rfl
  unfold AnnounceResult.intoCompact
  simp only [h]
  cases family with
  | true =>
      show ((reply.recycleHint p).putList6 b6).idleLists v4 = _
      rw [Pools.idleLists_putList6, hhint]
  | false =>
      show ((reply.recycleHint p).putList4 b4).idleLists v4 = _
      rw [Pools.idleLists_putList4, hhint]
      cases v4 <;> rfl

end Announce

namespace Udp

/-! ## One datagram -/

/-- A datagram, where it came from and when. -/
structure Datagram where
  remote : Net.Endpoint
  usePayloadIp : Bool
  now : Int64
  octets : Bytes

/-- Handles a datagram and sends the reply, if there is one. -/
def exchange (rules : Rules) (s : State) (d : Datagram) : State :=
  (Demand.datagram d.remote d.usePayloadIp d.now d.octets).exec rules s

/-- What a datagram asks for, as far as reply buffers go. -/
inductive Asked where
  /-- A stop is acknowledged to a remote of this family. -/
  | stop (v4 : Bool)
  /-- A peer joins and gets others. -/
  | join
  | other
deriving DecidableEq

/-- What comes of an announce from a remote of the family. -/
def Asked.ofIntent (v4 : Bool) : Except Refusal Announce.Intent → Asked
  | .error _ => other
  | .ok (.stop _ _ _) => stop v4
  | .ok (.join _ _ _ _) => join

def asked (rules : Rules) (d : Datagram) : Asked :=
  (announcement? rules d.remote d.usePayloadIp d.now d.octets).elim .other fun q =>
    .ofIntent (isV4Remote d.remote) (Announce.intent rules q d.now)

/-- The idle buffers of a family after what was asked, if there were `n` before. -/
def Asked.leaves (v4 : Bool) (n : Nat) : Asked → Nat
  | stop family => if family = v4 then n + 1 else n
  | join => max n 1
  | other => n

/-- The buffers of a family that a reply parks when it has been sent. -/
def Response.lists (v4 : Bool) : Response → Nat
  | announce4 _ => if v4 then 1 else 0
  | announce6 _ => if v4 then 0 else 1
  | _ => 0

theorem lists_announceReply (v4 family : Bool) (r : AnnounceReply) :
    (announceReply family r).lists v4 = if v4 = family then 1 else 0 := by
  cases family <;> cases v4 <;> rfl

theorem idleLists_send (v4 : Bool) (r : Response) (s : State) :
    (r.send s).2.pools.idleLists v4 = s.pools.idleLists v4 + r.lists v4 := by
  have hencoder : ∀ b, (s.pools.getEncoder.2.putEncoder b).idleLists v4 = s.pools.idleLists v4 := by
    intro b
    cases v4 <;> rfl
  show (r.recycle (s.pools.getEncoder.2.putEncoder _)).idleLists v4 = _
  cases r with
  | announce4 a => rw [Response.recycle, Pools.idleLists_putList4, hencoder]; rfl
  | announce6 a => rw [Response.recycle, Pools.idleLists_putList6, hencoder]; rfl
  | connect t id => exact hencoder _
  | scrape t counts => exact hencoder _
  | error t message => exact hencoder _

/-- The idle buffers of a family once what was answered has been sent. -/
def settled (v4 : Bool) (out : Option Response × State) : Nat :=
  out.2.pools.idleLists v4 + out.1.elim 0 (Response.lists v4)

section Handle

variable (v4 : Bool) (rules : Rules) (remote : Net.Endpoint) (usePayloadIp : Bool) (now : Int64)
  (s : State)

theorem settled_verified {n : Nat} (id : Int64) (t : Int32) {next : Response × State}
    (hnext : settled v4 (some next.1, next.2) = n) (hrefused : s.pools.idleLists v4 = n) :
    settled v4 (some (verified rules remote id now t s next).1,
      (verified rules remote id now t s next).2) = n := by
  unfold verified
  split
  · exact hnext
  · exact hrefused

theorem settled_handleScrape (r : ScrapeRequest) :
    settled v4 (some (handleScrape r s).1, (handleScrape r s).2) = s.pools.idleLists v4 := by
  have hscrape : (scrape s (r.hashes.map (·.bytes))).2.pools = s.pools := by
    unfold scrape State.countRefusal
    dsimp only
    split <;> rfl
  unfold handleScrape
  split <;> next heq => rw [heq] at hscrape; exact congrArg (Pools.idleLists v4) hscrape

theorem settled_handleAnnounce {r : AnnounceRequest} (hport : r.port ≠ 0) :
    settled v4 (some (handleAnnounce rules remote r usePayloadIp now s).1,
        (handleAnnounce rules remote r usePayloadIp now s).2) =
      (Asked.ofIntent (isV4Remote remote)
        (Announce.intent rules (announcement remote r usePayloadIp) now)).leaves v4
          (s.pools.idleLists v4) := by
  cases hintent : Announce.intent rules (announcement remote r usePayloadIp) now with
  | error e =>
      simp only [handleAnnounce, if_neg hport, announce_of_error hintent]
      rfl
  | ok i =>
      cases i with
      | stop hash id provider =>
          simp only [handleAnnounce, if_neg hport, announce_of_stop hintent]
          have hdrop : (Store.drop rules.store (s.count .announces 1) hash id
              provider).pools.idleLists v4 = s.pools.idleLists v4 :=
            Store.pools_drop (Pools.peerStable_idleLists v4 _) rules.store rfl hash id provider
          rw [settled, hdrop, Option.elim_some, lists_announceReply, Asked.ofIntent, Asked.leaves]
          by_cases hfamily : v4 = isV4Remote remote
          · rw [if_pos hfamily, if_pos hfamily.symm]
          · rw [if_neg hfamily, if_neg (fun h => hfamily h.symm), Nat.add_zero]
      | join hash id u wanted =>
          simp only [handleAnnounce, if_neg hport, announce_of_join hintent]
          -- each buffer that the reply takes is parked, one here and one by sending
          obtain ⟨⟨b4, b6, hpeers⟩, hanswer⟩ := idleLists_answer v4 rules hash u
            (Announce.enroll rules (s.count .announces 1) hash id u).2
            (q := announcement remote r usePayloadIp) rfl wanted
            (Announce.enroll rules (s.count .announces 1) hash id u).1
          rw [settled, idleLists_intoCompact v4 hpeers, hanswer, idleLists_enroll,
            Option.elim_some, lists_announceReply, Asked.ofIntent, Asked.leaves]
          show s.pools.idleLists v4 - 1 + _ + _ = _
          split <;> omega

/-- What becomes of the idle buffers depends on what is asked, and on nothing else. -/
theorem idleLists_exchange (d : Datagram) :
    (exchange rules s d).pools.idleLists v4 =
      (asked rules d).leaves v4 (s.pools.idleLists v4) := by
  obtain ⟨remote, usePayloadIp, now, octets⟩ := d
  have hsent : (exchange rules s ⟨remote, usePayloadIp, now, octets⟩).pools.idleLists v4 =
      settled v4 (handle rules remote usePayloadIp now octets s) := by
    unfold exchange Demand.exec
    dsimp only
    split
    · next reply s' heq => rw [heq, idleLists_send]; rfl
    · next heq => rw [heq]; rfl
  rw [hsent]
  unfold handle asked announcement?
  dsimp only
  cases Request.decode octets with
  | error e =>
      cases e with
      | unsendable fault => rfl
      | sendable id t fault => exact settled_verified v4 rules remote now s id t rfl rfl
  | ok request =>
      cases request with
      | connect t => rfl
      | scrape r => exact settled_verified v4 rules remote now s _ _ (settled_handleScrape v4 s r) rfl
      | announce r =>
          by_cases hverify : rules.key.verify r.connectionId remote now = true
          · simp only [hverify, verified, if_true, true_and]
            by_cases hport : r.port = 0
            · simp only [hport, ne_eq, not_true_eq_false, if_false, handleAnnounce, if_true]
              rfl
            · rw [if_pos hport]
              exact settled_handleAnnounce v4 rules remote usePayloadIp now s hport
          · simp only [hverify, verified, false_and, if_false, Bool.false_eq_true]
            rfl

end Handle

/-! ## A run of datagrams -/

/-- What is asked takes a buffer of the family or parks one. -/
def Asked.touches (v4 : Bool) : Asked → Bool
  | stop family => family = v4
  | join => true
  | other => false

/-- The idle buffers of a family after all this has been asked of a fresh tracker: one for
each stop over that family, and one more if there was a peer to join before the first. -/
def idleAfter (v4 : Bool) (as : List Asked) : Nat :=
  as.count (.stop v4) + if as.find? (·.touches v4) = some .join then 1 else 0

theorem idleAfter_of_find?_none {v4 : Bool} {as : List Asked}
    (h : as.find? (·.touches v4) = none) : idleAfter v4 as = 0 := by
  have hstop : Asked.stop v4 ∉ as := by
    intro hmem
    exact List.find?_eq_none.mp h _ hmem (decide_eq_true rfl)
  rw [idleAfter, h, List.count_eq_zero.mpr hstop]
  rfl

theorem idleAfter_pos {v4 : Bool} {as : List Asked} {a : Asked}
    (h : as.find? (·.touches v4) = some a) : 1 ≤ idleAfter v4 as := by
  rw [idleAfter, h]
  have htouches := List.find?_some h
  cases a with
  | join => exact Nat.le_add_left _ _
  | other => cases htouches
  | stop family =>
      obtain rfl : family = v4 := of_decide_eq_true htouches
      have hcount := List.count_pos_iff.mpr (List.mem_of_find?_eq_some h)
      omega

theorem idleAfter_snoc (v4 : Bool) (as : List Asked) (a : Asked) :
    idleAfter v4 (as ++ [a]) = a.leaves v4 (idleAfter v4 as) := by
  cases hfind : as.find? (·.touches v4) with
  | none =>
      have hzero := idleAfter_of_find?_none hfind
      rw [hzero]
      rw [idleAfter, hfind, if_neg (by simp), Nat.add_zero] at hzero
      rw [idleAfter, List.count_append, hzero, List.find?_append, hfind, Option.none_or]
      cases a with
      | join => simp [Asked.touches, Asked.leaves]
      | other => simp [Asked.touches, Asked.leaves]
      | stop family =>
          by_cases h : family = v4 <;> simp [Asked.touches, Asked.leaves, h]
  | some first =>
      -- what comes first is known already, so that a later join finds a buffer
      have hpos := idleAfter_pos hfind
      have hcount : idleAfter v4 (as ++ [a]) = idleAfter v4 as + [a].count (.stop v4) := by
        rw [idleAfter, idleAfter, List.count_append, List.find?_append, hfind, Option.some_or]
        omega
      rw [hcount]
      cases a with
      | join => simp [Asked.leaves, Nat.max_eq_left hpos]
      | other => simp [Asked.leaves]
      | stop family =>
          by_cases h : family = v4 <;> simp [Asked.leaves, h]

theorem idleAfter_le_append (v4 : Bool) (as bs : List Asked) :
    idleAfter v4 as ≤ idleAfter v4 (as ++ bs) := by
  induction bs using List.reverseRecOn with
  | nil => rw [List.append_nil]
  | append_singleton bs b ih =>
      refine Nat.le_trans ih ?_
      rw [← List.append_assoc, idleAfter_snoc]
      cases b with
      | join => exact Nat.le_max_left _ _
      | other => exact Nat.le_refl _
      | stop family =>
          rw [Asked.leaves]
          split
          · exact Nat.le_succ _
          · exact Nat.le_refl _

theorem idleLists_run (v4 : Bool) (rules : Rules) (limit : Nat) (random : RandomSource)
    (ds : List Datagram) :
    (ds.foldl (exchange rules) (.fresh limit random)).pools.idleLists v4 =
      idleAfter v4 (ds.map (asked rules)) := by
  induction ds using List.reverseRecOn with
  | nil => cases v4 <;> rfl
  | append_singleton ds d ih =>
      rw [List.foldl_append, List.map_append]
      show (exchange rules (ds.foldl (exchange rules) _) d).pools.idleLists v4 =
        idleAfter v4 (ds.map (asked rules) ++ [asked rules d])
      rw [idleLists_exchange, ih, idleAfter_snoc]

/-- **Stops pile up reply buffers.** A fresh tracker answers datagrams one after the other.
At any time there are as many idle buffers of a family as stops were acknowledged over it,
and one more if a peer had joined before the first of these. So there is never more than
one if none of the datagrams is such a stop, and in any run that is so just as long as
this number is at most one. -/
theorem stops_park_reply_buffers (rules : Rules) (limit : Nat) (random : RandomSource)
    (ds : List Datagram) (v4 : Bool) :
    let idle := fun k =>
      ((ds.take k).foldl (exchange rules) (.fresh limit random)).pools.idleLists v4
    let asks := ds.map (asked rules)
    (∀ k, idle k = idleAfter v4 (asks.take k)) ∧
      (.stop v4 ∉ asks → ∀ k, idle k ≤ 1) ∧ ((∀ k, idle k ≤ 1) ↔ idleAfter v4 asks ≤ 1) := by
  intro idle asks
  have hidle : ∀ k, idle k = idleAfter v4 (asks.take k) := by
    intro k
    rw [← List.map_take]
    exact idleLists_run v4 rules limit random (ds.take k)
  have hle : ∀ k, idle k ≤ idleAfter v4 asks := by
    intro k
    rw [hidle]
    have h := idleAfter_le_append v4 (asks.take k) (asks.drop k)
    rwa [List.take_append_drop] at h
  have hiff : (∀ k, idle k ≤ 1) ↔ idleAfter v4 asks ≤ 1 := by
    constructor
    · intro h
      have hall := h ds.length
      rw [hidle, List.take_of_length_le (Nat.le_of_eq (List.length_map _))] at hall
      exact hall
    · exact fun h k => Nat.le_trans (hle k) h
  refine ⟨hidle, fun hstop => hiff.mpr ?_, hiff⟩
  rw [idleAfter, List.count_eq_zero.mpr hstop]
  split <;> decide

/-- A peer joins, is served, and stops. -/
def sampleVisit (remote : Net.Endpoint) : List Datagram :=
  [⟨remote, false, 5, (Request.announce (sampleRequest remote)).encode⟩,
    ⟨remote, false, 5, (Request.announce { sampleRequest remote with event := .stopped }).encode⟩]

theorem visit_parks_two_reply_buffers :
    let remote : Net.Endpoint := ⟨.v4 ⟨10, 0, 0, 1⟩, 6881, 0⟩
    let s := (sampleVisit remote).foldl (exchange sampleRules) (.fresh 74 (.ofList []))
    s.pools.idleLists true = 2 := by
  decide +kernel

end Udp

end PeerTracker
