import PeerTracker.Proofs.Figures
import PeerTracker.Proofs.ReplyBuffers

/-!
# Retransmissions

Senders repeat datagrams that got no answer, also those that were handled. What a save
writes is a fixed point of the same save: the report is in the record already, the peer is
counted as what it is, and the record remembers the incomplete peers that there still are
(`Swarm.Knows`). A drop finds nothing the second time. So the second handling adds to the
calls, the failures and the buffers, but not to the store or to any figure about peers
(`State.SameFigures`).
-/

namespace PeerTracker

/-! ## Saving twice -/

theorem Peer.maxTotal_le (a b : UInt64) : ¬maxTotal a b < b := by
  rw [maxTotal]
  split
  · exact Nat.lt_irrefl _
  · next h => exact h

theorem Peer.maxTotal_maxTotal (a b : UInt64) : maxTotal (maxTotal a b) b = maxTotal a b := by
  rw [maxTotal, if_neg (maxTotal_le a b)]

/-- A record that has taken over a report has nothing to take over from it again. -/
theorem Peer.apply_apply (p : Peer) (u : Update) : (p.apply u).apply u = p.apply u := by
  simp only [apply, maxTotal_maxTotal]

theorem Swarm.transition_self (w : Swarm) (complete : Bool) :
    w.transition complete complete = w := by
  cases complete <;> rfl

theorem Swarm.apply_reported (w : Swarm) (id : PeerId) (p : Peer) (u : Update) :
    (w.reported id p u).apply u = w.reported id p u := by
  simp only [reported, Peer.apply, Peer.maxTotal_maxTotal]

/-- The swarm has this report already. -/
structure Swarm.Knows (w : Swarm) (id : PeerId) (u : Update) : Prop where
  live : w.retired = false
  peer : ∃ p, w.peers.get? id = some p ∧ p.apply u = p ∧ p.leechersLastTime = w.incomplete
  provider : u.provider = true → ∃ p, w.providers.get? id = some p ∧ p.apply u = p

namespace Store

variable (rules : StoreRules) {s : State} {hash : InfoHash} {w : Swarm} {id : PeerId} {u : Update}

theorem savePeer_of_knows (h : w.Knows id u) {p : Peer} (hp : w.peers.get? id = some p) :
    savePeer w id p u = w := by
  obtain ⟨p', hp', happly, hlast⟩ := h.peer
  obtain rfl : p' = p := Option.some.inj (hp'.symm.trans hp)
  have hcomplete : u.complete = p'.complete := (congrArg Peer.complete happly)
  have hrecount : recount w id u.complete = w := by
    rw [recount, hp, hcomplete]
    exact w.transition_self _
  have hreported : w.reported id p' u = p' := by
    rw [Swarm.reported, hrecount, happly, ← hlast]
  show { recount w id u.complete with peers := w.peers.insert id (w.reported id p' u) } = w
  rw [hrecount, hreported, Table.insert_eq_self hp]

theorem saveProvider_of_knows (h : w.Knows id u) (pools : Pools) :
    saveProvider w id u pools = (w, pools) := by
  unfold saveProvider
  split
  · next hprovider =>
    obtain ⟨p, hp, happly⟩ := h.provider hprovider
    rw [record, hp]
    show ({ w with providers := w.providers.insert id (p.apply u) }, pools) = _
    rw [happly, Table.insert_eq_self hp]
  · rfl

theorem track_of_knows (h : w.Knows id u) (st : Stats) :
    st.track rules.fast (w.peers.get? id) u.complete u.ip = st := by
  obtain ⟨p, hp, happly, -⟩ := h.peer
  have hcomplete : p.complete = u.complete := (congrArg Peer.complete happly).symm
  have hip : p.ip = u.ip := (congrArg Peer.ip happly).symm
  rw [hp]
  unfold Stats.track
  split
  · rfl
  · show st.move p.complete u.complete p.ip u.ip = st
    rw [Stats.move, hcomplete, hip, if_pos rfl, AddressCounts.change, if_pos rfl]

/-- A report that is known changes nothing. -/
theorem save_of_knows (hw : s.swarm? hash = some w) (h : w.Knows id u) :
    save rules s hash id u = (false, s) := by
  obtain ⟨p, hp, happly, -⟩ := h.peer
  have hopen : openSwarm s hash = w := openSwarm_eq hw h.live
  have hbad : p.isBadActor u rules.minLeechers = false := by
    have hdownloaded : ¬p.downloaded < u.downloaded := by
      rw [← happly]
      exact Peer.maxTotal_le _ _
    rw [Peer.isBadActor, decide_eq_false hdownloaded, Bool.and_false, Bool.false_and]
  unfold save
  rw [hopen]
  dsimp only
  rw [track_of_knows rules h, record, hp]
  dsimp only
  rw [savePeer_of_knows h hp, saveProvider_of_knows h, hbad]
  show (false, { s with swarms := s.swarms.insert hash w }) = (false, s)
  rw [Table.insert_eq_self hw]

theorem openSwarm_live (s : State) (hash : InfoHash) : (openSwarm s hash).retired = false := by
  unfold openSwarm
  split
  · split
    · rfl
    · next h => exact Bool.eq_false_of_not_eq_true h
  · rfl

/-- After a save the swarm knows what was saved. -/
theorem knows_save (s : State) (hash : InfoHash) (id : PeerId) (u : Update) :
    ∃ w, (save rules s hash id u).2.swarm? hash = some w ∧ w.Knows id u := by
  let w := openSwarm s hash
  let saved := savePeer w id (record w.peers id s.pools).1 u
  refine ⟨(saveProvider saved id u (record w.peers id s.pools).2).1, Table.get?_insert_self _ _ _,
    ?_⟩
  have hlive : saved.retired = false :=
    (Swarm.sameRecords_recount w id u.complete).retired.trans (openSwarm_live s hash)
  have hpeer : ∃ p, saved.peers.get? id = some p ∧ p.apply u = p ∧
      p.leechersLastTime = saved.incomplete := by
    exact ⟨w.reported id _ u, Table.get?_insert_self _ _ _, w.apply_reported id _ u, rfl⟩
  unfold saveProvider
  split
  · refine ⟨hlive, hpeer, fun _ => ?_⟩
    exact ⟨_, Table.get?_insert_self _ _ _, Peer.apply_apply _ u⟩
  · next hprovider => exact ⟨hlive, hpeer, fun h => absurd h hprovider⟩

/-- A save finds nothing to change the second time. -/
theorem save_save (s : State) (hash : InfoHash) (id : PeerId) (u : Update) :
    save rules (save rules s hash id u).2 hash id u = (false, (save rules s hash id u).2) := by
  obtain ⟨w, hw, hknows⟩ := knows_save rules s hash id u
  exact save_of_knows rules hw hknows

/-! ## Dropping twice -/

/-- The peer that is to be dropped is not there. -/
def Lacks (s : State) (hash : InfoHash) (id : PeerId) (provider : Bool) : Prop :=
  ∀ w, s.swarm? hash = some w →
    w.peers.get? id = none ∧ (provider = true → w.providers.get? id = none)

theorem drop_of_lacks {provider : Bool} (h : Lacks s hash id provider) :
    drop rules s hash id provider = s := by
  unfold drop
  split
  · rfl
  · next w hw =>
    obtain ⟨hpeer, hprovider⟩ := h w hw
    have hfirst : (if provider then dropProvider s hash w id else (w, s)) = (w, s) := by
      split
      · next hset => rw [dropProvider, hprovider hset]
      · rfl
    rw [hfirst]
    dsimp only
    rw [Swarm.remove, hpeer]

theorem lacks_drop (s : State) (hash : InfoHash) (id : PeerId) (provider : Bool) :
    Lacks (drop rules s hash id provider) hash id provider := by
  intro v hv
  rw [swarm?_drop, if_pos rfl, Option.map_eq_some_iff] at hv
  obtain ⟨w, -, rfl⟩ := hv
  constructor
  · rw [dropped, Swarm.remove_peers, Table.get?_erase, if_pos rfl]
  · rintro rfl
    rw [dropped, Swarm.remove_providers]
    exact (Table.get?_erase _ _ _).trans (if_pos rfl)

end Store

/-! ## Announcing twice -/

/-- A figure about peers. -/
def Counter.ofPeers (c : Counter) : Prop := c = .seeds ∨ c = .leeches ∨ c = .badActors

instance : DecidablePred Counter.ofPeers := fun _ => inferInstanceAs (Decidable (_ ∨ _))

/-- The two states have the same store and the same figures about peers. -/
structure State.SameFigures (s t : State) : Prop where
  swarms : t.swarms = s.swarms
  figures : ∀ c : Counter, c.ofPeers → t.stats.read c = s.stats.read c
  addresses : t.stats.addresses = s.stats.addresses

namespace State.SameFigures

variable {s t u : State}

theorem refl (s : State) : s.SameFigures s := ⟨rfl, fun _ _ => rfl, rfl⟩

theorem trans (h : s.SameFigures t) (h' : t.SameFigures u) : s.SameFigures u :=
  ⟨h'.swarms.trans h.swarms, fun c hc => (h'.figures c hc).trans (h.figures c hc),
    h'.addresses.trans h.addresses⟩

/-- Counting something else. -/
theorem count (s : State) {c : Counter} (h : ¬c.ofPeers) (delta : Int64) :
    s.SameFigures (s.count c delta) where
  swarms := rfl
  figures := by
    intro d hd
    have hne : d ≠ c := by
      rintro rfl
      exact h hd
    rw [read_count, if_neg hne]
  addresses := by cases c <;> rfl

theorem of_steady (h : s.Steady t) (hstats : t.stats = s.stats) : s.SameFigures t where
  swarms := h.swarms
  figures := by
    intro c _
    rw [hstats]
  addresses := by rw [hstats]

theorem swarm?_eq (h : s.SameFigures t) (hash : InfoHash) : t.swarm? hash = s.swarm? hash := by
  rw [swarm?, h.swarms, swarm?]

theorem hashStats_eq (h : s.SameFigures t) (hash : InfoHash) :
    Store.hashStats t hash = Store.hashStats s hash := by
  rw [Store.hashStats, h.swarm?_eq, Store.hashStats]

end State.SameFigures

namespace Announce

/-- The two outcomes are of one kind, with the same numbers of peers. -/
inductive Alike : Except Refusal AnnounceOutcome → Except Refusal AnnounceOutcome → Prop
  | refused (e : Refusal) : Alike (.error e) (.error e)
  | stopped : Alike (.ok .stopped) (.ok .stopped)
  | announced {a b : AnnounceResult} (complete : b.complete = a.complete)
      (incomplete : b.incomplete = a.incomplete) :
      Alike (.ok (.announced a)) (.ok (.announced b))

theorem sameFigures_answer (r : Rules) (q : Announcement) (hash : InfoHash) (u : Update)
    (wanted : Nat) (badActor : Bool) (s : State) :
    s.SameFigures (answer r q hash u wanted badActor s).2 :=
  .of_steady (steady_answer r q hash u wanted badActor s) (stats_answer s hash r q u wanted badActor)

/-- Whoever is enrolled can be enrolled again without a trace. -/
theorem enroll_again (r : Rules) {s t : State} (hash : InfoHash) (id : PeerId) (u : Update)
    (h : (enroll r s hash id u).2.SameFigures t) : enroll r t hash id u = (false, t) := by
  obtain ⟨w, hw, hknows⟩ := Store.knows_save r.store s hash id u
  have hsave : Store.save r.store t hash id u = (false, t) := by
    refine Store.save_of_knows r.store ?_ hknows
    rw [h.swarm?_eq, (steady_enroll r s hash id u).swarm?_eq, hw]
  unfold enroll
  rw [hsave]
  rfl

end Announce

open Announce

/-- An announce that comes again finds everything done. What happened in between may be
anything that moves neither the store nor the figures about peers. -/
theorem announce_again (r : Rules) (q : Announcement) (now : Int64) {s t : State}
    (h : (announce r q now s).2.SameFigures t) :
    t.SameFigures (announce r q now t).2 ∧
      Alike (announce r q now s).1 (announce r q now t).1 := by
  have hcalled : t.SameFigures (t.count .announces 1) := .count t (by decide) 1
  cases hintent : intent r q now with
  | error e =>
      rw [announce_of_error hintent, announce_of_error hintent, Refusal.counter,
        isClient_of_intent hintent]
      exact ⟨hcalled.trans (.count _ (by decide) 1), .refused e⟩
  | ok i =>
      cases i with
      | stop hash id provider =>
          rw [announce_of_stop hintent] at h
          rw [announce_of_stop hintent, announce_of_stop hintent]
          have hlacks : Store.Lacks (t.count .announces 1) hash id provider := by
            intro w hw
            rw [hcalled.swarm?_eq, h.swarm?_eq] at hw
            exact Store.lacks_drop r.store _ hash id provider w hw
          rw [Store.drop_of_lacks r.store hlacks]
          exact ⟨hcalled, .stopped⟩
      | join hash id u wanted =>
          rw [announce_of_join hintent] at h
          rw [announce_of_join hintent, announce_of_join hintent]
          generalize henrolled : enroll r (s.count .announces 1) hash id u = enrolled at h
          have hanswer := sameFigures_answer r q hash u wanted enrolled.1 enrolled.2
          have hbetween : enrolled.2.SameFigures (t.count .announces 1) :=
            (hanswer.trans h).trans hcalled
          have hagain : enroll r (t.count .announces 1) hash id u = (false, t.count .announces 1) :=
            enroll_again r hash id u (henrolled ▸ hbetween)
          rw [hagain]
          refine ⟨hcalled.trans (sameFigures_answer r q hash u wanted false _), ?_⟩
          have hstats := hbetween.hashStats_eq hash
          exact .announced (congrArg Prod.fst hstats) (congrArg Prod.snd hstats)

/-! ## Scraping twice -/

theorem Scrape.process_of_sameFigures {s t : State} (h : s.SameFigures t) (hashes : List Bytes) :
    process t hashes = process s hashes := by
  have hentry : entry t = entry s := by
    funext hash
    rw [entry, h.hashStats_eq, entry]
  rw [process, hentry, process]

theorem sameFigures_scrape (s : State) (hashes : List Bytes) :
    s.SameFigures (scrape s hashes).2 := by
  generalize hout : scrape s hashes = out
  obtain ⟨_ | _, s'⟩ := out
  · rw [state_of_scrape_error hout]
    exact .trans (.count s (by decide) 1) (.count _ (by decide) 1)
  · rw [state_of_scrape_ok hout]
    exact .count s (by decide) 1

theorem scrape_again {s t : State} (h : s.SameFigures t) (hashes : List Bytes) :
    (scrape t hashes).1 = (scrape s hashes).1 := by
  have hcount : ∀ s : State, s.SameFigures (s.count .scrapes 1) := fun s =>
    .count s (by decide) 1
  show Scrape.process (t.count .scrapes 1) hashes = Scrape.process (s.count .scrapes 1) hashes
  rw [Scrape.process_of_sameFigures (hcount t), Scrape.process_of_sameFigures h,
    Scrape.process_of_sameFigures (hcount s)]

/-! ## Handling twice -/

namespace Udp

/-- The two replies are the same, or acknowledge an announce with the same numbers of
peers. -/
inductive Response.Alike : Response → Response → Prop
  | same (r : Response) : Alike r r
  | announce (v4 : Bool) {a b : AnnounceReply} (transaction : b.transactionId = a.transactionId)
      (leechers : b.leechers = a.leechers) (seeders : b.seeders = a.seeders) :
      Alike (announceReply v4 a) (announceReply v4 b)

/-- Answering a second time moves no figure of peers, and the answer is alike. -/
def Repeatable (answer : State → Response × State) : Prop :=
  ∀ s t, (answer s).2.SameFigures t →
    t.SameFigures (answer t).2 ∧ (answer s).1.Alike (answer t).1

theorem Repeatable.answered {answer : State → Response × State} (h : Repeatable answer)
    {s t : State} (hs : (answer s).2.SameFigures t) :
    t.SameFigures (answer t).2 ∧
      Option.Rel Response.Alike (some (answer s).1) (some (answer t).1) := by
  obtain ⟨hsame, halike⟩ := h s t hs
  exact ⟨hsame, .some halike⟩

theorem repeatable_refuse (t : Int32) (text : String) : Repeatable (refuse t text) :=
  fun _ u _ => ⟨.count u (by decide) 1, .same _⟩

variable {rules : Rules} {remote : Net.Endpoint} {usePayloadIp : Bool} {now : Int64}

theorem sameFigures_handleAnnounce {r : AnnounceRequest} (hport : r.port ≠ 0) (s : State) :
    (announce rules (announcement remote r usePayloadIp) now s).2.SameFigures
      (handleAnnounce rules remote r usePayloadIp now s).2 := by
  refine .of_steady (steady_handleAnnounce rules remote usePayloadIp now s hport) ?_
  simp only [handleAnnounce, if_neg hport]
  split <;> next heq => rw [heq]

theorem repeatable_handleAnnounce (r : AnnounceRequest) :
    Repeatable (handleAnnounce rules remote r usePayloadIp now) := by
  intro s t h
  by_cases hport : r.port = 0
  · simp only [handleAnnounce, if_pos hport]
    exact ⟨.count t (by decide) 1, .same _⟩
  · obtain ⟨hsame, halike⟩ := announce_again rules (announcement remote r usePayloadIp) now
      ((sameFigures_handleAnnounce hport s).trans h)
    refine ⟨hsame.trans (sameFigures_handleAnnounce hport t), ?_⟩
    simp only [handleAnnounce, if_neg hport]
    generalize announce rules (announcement remote r usePayloadIp) now s = first at halike
    generalize announce rules (announcement remote r usePayloadIp) now t = second at halike
    obtain ⟨o, s'⟩ := first
    obtain ⟨o', t'⟩ := second
    cases halike with
    | refused e => exact .same _
    | stopped => exact .same _
    | announced complete incomplete =>
        exact .announce _ rfl (congrArg UInt32.toInt32 incomplete)
          (congrArg UInt32.toInt32 complete)

theorem repeatable_handleScrape (r : ScrapeRequest) : Repeatable (handleScrape r) := by
  have hframe : ∀ s : State, s.SameFigures (handleScrape r s).2 := by
    intro s
    have hscrape := sameFigures_scrape s (r.hashes.map (·.bytes))
    unfold handleScrape
    split <;> next heq => rw [heq] at hscrape; exact hscrape
  intro s t h
  have houtcome := scrape_again ((hframe s).trans h) (r.hashes.map (·.bytes))
  refine ⟨hframe t, ?_⟩
  unfold handleScrape
  generalize scrape s _ = first at houtcome
  generalize scrape t _ = second at houtcome
  obtain ⟨o, s'⟩ := first
  obtain ⟨o', t'⟩ := second
  obtain rfl : o' = o := houtcome
  cases o' with
  | error e => exact .same _
  | ok entries => exact .same _

theorem repeatable_verified (id : Int64) (t : Int32) {answer : State → Response × State}
    (h : Repeatable answer) :
    Repeatable fun s => verified rules remote id now t s (answer s) := by
  unfold verified
  split
  · exact h
  · exact repeatable_refuse t _

/-- What is answered at all can be answered again. -/
theorem handle_again (d : Bytes) {s t : State}
    (h : (handle rules remote usePayloadIp now d s).2.SameFigures t) :
    t.SameFigures (handle rules remote usePayloadIp now d t).2 ∧
      Option.Rel Response.Alike (handle rules remote usePayloadIp now d s).1
        (handle rules remote usePayloadIp now d t).1 := by
  unfold handle at h ⊢
  cases hdecode : Request.decode d with
  | error e =>
      rw [hdecode] at h
      cases e with
      | unsendable fault => exact ⟨.refl t, .none⟩
      | sendable id tid fault =>
          exact (repeatable_verified id tid (repeatable_refuse tid _)).answered h
  | ok request =>
      rw [hdecode] at h
      cases request with
      | connect tid => exact ⟨.count t (by decide) 1, .some (.same _)⟩
      | announce r => exact (repeatable_verified _ _ (repeatable_handleAnnounce r)).answered h
      | scrape r => exact (repeatable_verified _ _ (repeatable_handleScrape r)).answered h

/-- Sending a reply has to do with buffers only. -/
theorem sameFigures_exchange (rules : Rules) (s : State) (d : Datagram) :
    (handle rules d.remote d.usePayloadIp d.now d.octets s).2.SameFigures
      (exchange rules s d) := by
  unfold exchange Demand.exec
  dsimp only
  split
  · next reply s' heq =>
    rw [heq]
    exact .of_steady (reply.steady_send s') rfl
  · next heq =>
    rw [heq]
    exact .refl _

end Udp

/-- **Retransmission is harmless.** Saving a second time what was just saved changes
nothing at all and is nobody's fault. Whatever datagram was handled, and whether or not the
answer has been sent since: handling it again at the same time leaves every swarm with all
of its records and counters as the first handling left it, and the seeds, the leeches, the
addresses and the bad actors. The second answer is of the same kind as the first, or like
it missing, and has the same numbers of seeders and leechers. -/
theorem retransmission_is_harmless (rules : Rules) (s : State) :
    (∀ (hash : InfoHash) (id : PeerId) (u : Update),
      let saved := (Store.save rules.store s hash id u).2
      Store.save rules.store saved hash id u = (false, saved)) ∧
      ∀ (d : Udp.Datagram) (sent : Bool),
        let handle := Udp.handle rules d.remote d.usePayloadIp d.now d.octets
        let first := handle s
        let second := handle (if sent then Udp.exchange rules s d else first.2)
        first.2.SameFigures second.2 ∧ Option.Rel Udp.Response.Alike first.1 second.1 := by
  constructor
  · intro hash id u saved
    exact Store.save_save rules.store s hash id u
  · intro d sent handle first second
    have hbetween : first.2.SameFigures (if sent then Udp.exchange rules s d else first.2) := by
      split
      · exact Udp.sameFigures_exchange rules s d
      · exact .refl _
    obtain ⟨hsame, halike⟩ := Udp.handle_again d.octets hbetween
    exact ⟨hbetween.trans hsame, halike⟩

end PeerTracker
