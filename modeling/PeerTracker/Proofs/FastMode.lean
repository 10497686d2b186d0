import PeerTracker.Proofs.Demands

/-!
# Fast mode

In fast mode a tracker keeps no totals of peers and no counts of addresses. Nothing else it
does depends on them: `State.untallied` takes them out of a state, and whatever is done in fast
mode to a state without them has the result that it has otherwise to the state with them, and
leaves what that leaves, without them (`Demand.exec_quick` and `Demand.outcome_quick`, from one
lemma for each function of the store, the services and the transports). Only the published
figures show a difference.
-/

namespace PeerTracker

/-! ## Leaving out totals -/

/-- The counters without the totals of peers and the counts of addresses. -/
def Stats.untallied (st : Stats) : Stats := { st with seeds := 0, leeches := 0, addresses := ∅ }

def State.untallied (s : State) : State := { s with stats := s.stats.untallied }

theorem State.eq_untallied {s t : State} (hswarms : t.swarms = s.swarms)
    (hpools : t.pools = s.pools) (hstats : t.stats = s.stats.untallied)
    (hrandom : t.random = s.random) : t = s.untallied := by
  cases t
  cases hswarms
  cases hpools
  cases hstats
  cases hrandom
  rfl

/-- The same result beside the state without totals. -/
def untally {α : Type} (out : α × State) : α × State := (out.1, out.2.untallied)

def StoreRules.quick (rules : StoreRules) : StoreRules := { rules with fast := true }

def Rules.quick (r : Rules) : Rules := { r with store := r.store.quick }

namespace Stats

variable (st : Stats)

theorem untallied_add_kind (complete : Bool) (delta : Int64) :
    (st.add (kind complete) delta).untallied = st.untallied := by
  cases complete <;> rfl

theorem untallied_add {c : Counter} (hc : ∀ complete, c ≠ kind complete) (delta : Int64) :
    (st.add c delta).untallied = st.untallied.add c delta := by
  cases c with
  | seeds => exact absurd rfl (hc true)
  | leeches => exact absurd rfl (hc false)
  | _ => rfl

theorem untallied_leave (complete : Bool) (ip : Net.IpAddr) :
    (st.leave complete ip).untallied = st.untallied := st.untallied_add_kind complete (-1)

theorem untallied_move (was complete : Bool) (old new : Net.IpAddr) :
    (st.move was complete old new).untallied = st.untallied := by
  show Stats.untallied (if was = complete then st else _) = _
  split
  · rfl
  · rw [untallied_add_kind, untallied_add_kind]

theorem untallied_track (fast : Bool) (existing : Option Peer) (complete : Bool)
    (ip : Net.IpAddr) : (st.track fast existing complete ip).untallied = st.untallied := by
  unfold track
  split
  · rfl
  · cases existing with
    | none => exact st.untallied_add_kind complete 1
    | some p => exact st.untallied_move p.complete complete p.ip ip

end Stats

namespace State

variable (s : State)

theorem untallied_count {c : Counter} (hc : ∀ complete, c ≠ Stats.kind complete) (delta : Int64) :
    s.untallied.count c delta = (s.count c delta).untallied := by
  rw [untallied, untallied, count, count, Stats.untallied_add _ hc]

theorem untallied_release (fast : Bool) (p : Peer) :
    s.untallied.release true p = (s.release fast p).untallied := by
  cases fast with
  | true => rfl
  | false => exact eq_untallied rfl rfl (s.stats.untallied_leave p.complete p.ip).symm rfl

theorem untallied_foldl_release (fast : Bool) (ps : List Peer) :
    ps.foldl (release true) s.untallied = (ps.foldl (release fast) s).untallied := by
  induction ps generalizing s with
  | nil => rfl
  | cons p ps ih => rw [List.foldl_cons, List.foldl_cons, s.untallied_release fast, ih]

end State

/-! ## The store -/

namespace Store

variable (rules : StoreRules) (s : State)

theorem save_quick (hash : InfoHash) (id : PeerId) (u : Update) :
    save rules.quick s.untallied hash id u = untally (save rules s hash id u) := by
  refine Prod.ext rfl (State.eq_untallied rfl rfl ?_ rfl)
  exact (s.stats.untallied_track rules.fast _ u.complete u.ip).symm

theorem drop_quick (hash : InfoHash) (id : PeerId) (provider : Bool) :
    drop rules.quick s.untallied hash id provider = (drop rules s hash id provider).untallied := by
  cases hw : s.swarm? hash with
  | none =>
      have hw' : s.untallied.swarm? hash = none := hw
      rw [drop_of_none rules hw, drop_of_none rules.quick hw']
  | some w =>
      have hw' : s.untallied.swarm? hash = some w := hw
      rw [drop_eq rules hw, drop_eq rules.quick hw']
      exact State.untallied_foldl_release ((s.setSwarm hash (dropped w id provider)).parkAll
        (droppedProvider w id provider)) rules.fast _

theorem trimSwarm_quick (fast : Bool) (now timeout : Int64) (w : Swarm) :
    trimSwarm true now timeout s.untallied w =
      let out := trimSwarm fast now timeout s w
      (out.1, out.2.1, out.2.2.untallied) := by
  have hgone := s.untallied_foldl_release fast (expire now timeout w).2.1
  simp only [trimSwarm, hgone]
  split <;> rfl

theorem trimHash_quick (fast : Bool) (now timeout : Int64) (acc : Trimmed × State)
    (e : InfoHash × Swarm) :
    trimHash true now timeout (untally acc) e = untally (trimHash fast now timeout acc e) := by
  have htrim := trimSwarm_quick acc.2 fast now timeout e.2
  simp only [trimHash, untally, htrim]
  split <;> rfl

theorem foldl_trimHash_quick (fast : Bool) (now timeout : Int64) (es : List (InfoHash × Swarm))
    (acc : Trimmed × State) :
    es.foldl (trimHash true now timeout) (untally acc) =
      untally (es.foldl (trimHash fast now timeout) acc) := by
  induction es generalizing acc with
  | nil => rfl
  | cons e es ih => rw [List.foldl_cons, List.foldl_cons, trimHash_quick fast, ih]

theorem trim_quick (now timeout : Int64) :
    trim rules.quick s.untallied now timeout = untally (trim rules s now timeout) :=
  foldl_trimHash_quick rules.fast now timeout s.swarms.entries ({}, s)

theorem loadPeer_quick (fast : Bool) (acc : Swarm × State) (r : Snapshot.PeerRecord) :
    loadPeer true (untally acc) r = untally (loadPeer fast acc r) := by
  obtain ⟨w, s⟩ := acc
  show loadPeer true (w, s.untallied) r = _
  by_cases hknown : w.peers.contains r.id = true
  · simp only [loadPeer, untally, if_pos hknown]
  · simp only [loadPeer, untally, if_neg hknown]
    refine Prod.ext rfl (State.eq_untallied rfl rfl ?_ rfl)
    exact (s.stats.untallied_track fast none r.complete r.ip).symm

theorem foldl_loadPeer_quick (fast : Bool) (rs : List Snapshot.PeerRecord) (acc : Swarm × State) :
    rs.foldl (loadPeer true) (untally acc) = untally (rs.foldl (loadPeer fast) acc) := by
  induction rs generalizing acc with
  | nil => rfl
  | cons r rs ih => rw [List.foldl_cons, List.foldl_cons, loadPeer_quick fast, ih]

theorem foldl_loadProvider_quick (rs : List Snapshot.PeerRecord) (acc : Swarm × State) :
    rs.foldl loadProvider (untally acc) = untally (rs.foldl loadProvider acc) := by
  induction rs generalizing acc with
  | nil => rfl
  | cons r rs ih => exact ih (loadProvider acc r)

theorem retire_quick (fast : Bool) (w : Swarm) :
    retire true s.untallied w = (retire fast s w).untallied := by
  unfold retire
  dsimp only
  rw [s.untallied_foldl_release fast]
  rfl

theorem replace_quick (fast : Bool) (hash : InfoHash) (w : Swarm) :
    replace true s.untallied hash w = (replace fast s hash w).untallied := by
  have hswarm : s.untallied.swarm? hash = s.swarm? hash := rfl
  unfold replace
  rw [hswarm]
  split
  · rfl
  · exact retire_quick (s.setSwarm hash w) fast _

theorem loadEntry_quick (fast : Bool) (acc : (Nat × Nat) × State) (r : Snapshot.SwarmRecord) :
    loadEntry true (untally acc) r = untally (loadEntry fast acc r) := by
  obtain ⟨⟨peers, hashes⟩, s⟩ := acc
  have hpeers : r.peers.foldl (loadPeer true) (∅, s.untallied) =
      untally (r.peers.foldl (loadPeer fast) (∅, s)) := foldl_loadPeer_quick fast r.peers (∅, s)
  show loadEntry true ((peers, hashes), s.untallied) r = _
  unfold loadEntry
  dsimp only
  rw [hpeers]
  generalize r.peers.foldl (loadPeer fast) (∅, s) = loaded
  have hproviders := foldl_loadProvider_quick r.providers loaded
  obtain ⟨w, s'⟩ := loaded
  show (if w.peers.isEmpty then _ else _) = untally (if w.peers.isEmpty then _ else _)
  split
  · rfl
  · simp only [untally] at hproviders ⊢
    rw [hproviders]
    exact Prod.ext rfl (replace_quick _ fast r.hash _)

theorem load_quick (records : List Snapshot.SwarmRecord) :
    load rules.quick s.untallied records = untally (load rules s records) := by
  have hfold : ∀ acc : (Nat × Nat) × State,
      records.foldl (loadEntry true) (untally acc) =
        untally (records.foldl (loadEntry rules.fast) acc) := by
    induction records with
    | nil => exact fun _ => rfl
    | cons r rs ih =>
        intro acc
        rw [List.foldl_cons, List.foldl_cons, loadEntry_quick rules.fast, ih]
  exact hfold ((0, 0), s)

theorem restore_quick (bs : Bytes) :
    restore rules.quick s.untallied bs = untally (restore rules s bs) := by
  unfold restore
  split
  · rfl
  · next records _ =>
    rw [load_quick]
    rfl

/-! ## Reading the store -/

variable (hash : InfoHash)

theorem pickProvider_untallied :
    pickProvider s.untallied hash = untally (pickProvider s hash) := by
  have hswarm : s.untallied.swarm? hash = s.swarm? hash := rfl
  unfold pickProvider
  rw [hswarm]
  split
  · rfl
  · split <;> rfl

theorem baselineProvider_untallied (compact withIds : Bool) :
    baselineProvider s.untallied hash compact withIds =
      untally (baselineProvider s hash compact withIds) := by
  unfold baselineProvider
  rw [pickProvider_untallied]
  generalize pickProvider s hash = picked
  obtain ⟨e?, s'⟩ := picked
  cases e? with
  | none => rfl
  | some e => cases compact <;> rfl

end Store

/-! ## Announces and scrapes -/

namespace Announce

variable (r : Rules) (q : Announcement) (s : State) (hash : InfoHash) (u : Update)

theorem listing_untallied (wanted : Nat) :
    listing q s.untallied hash wanted = untally (listing q s hash wanted) := by
  unfold listing
  cases q.compact <;> rfl

theorem hint_untallied : hint q s.untallied hash u = untally (hint q s hash u) := by
  by_cases hexempt : (u.provider && u.complete) = true
  · simp only [hint, if_pos hexempt, untally]
  · simp only [hint, if_neg hexempt]
    exact Store.baselineProvider_untallied s hash _ _

theorem interval_untallied : interval r s.untallied = untally (interval r s) := by
  by_cases hfuzz : r.fuzz = 0
  · simp only [interval, if_pos hfuzz, untally]
  · simp only [interval, if_neg hfuzz]
    rfl

theorem answer_untallied (wanted : Nat) (badActor : Bool) :
    answer r q hash u wanted badActor s.untallied =
      untally (answer r q hash u wanted badActor s) := by
  have hstats : Store.hashStats s.untallied hash = Store.hashStats s hash := rfl
  unfold answer
  rw [hstats, listing_untallied]
  generalize listing q s hash wanted = listed
  have hhint := hint_untallied q listed.2 hash u
  simp only [untally] at hhint ⊢
  rw [hhint]
  generalize hint q listed.2 hash u = hinted
  have hinterval := interval_untallied r hinted.2
  simp only [untally] at hinterval
  rw [hinterval]

theorem enroll_quick (id : PeerId) :
    enroll r.quick s.untallied hash id u = untally (enroll r s hash id u) := by
  unfold enroll
  have hsave := Store.save_quick r.store s hash id u
  rw [show r.quick.store = r.store.quick from rfl, hsave]
  generalize Store.save r.store s hash id u = saved
  obtain ⟨badActor, s'⟩ := saved
  cases badActor with
  | false => rfl
  | true => exact Prod.ext rfl (s'.untallied_count (by decide) 1)

theorem register_quick (id : PeerId) (wanted : Nat) :
    register r.quick q s.untallied hash id u wanted =
      untally (register r q s hash id u wanted) := by
  unfold register
  rw [enroll_quick]
  exact answer_untallied r q _ hash u wanted _

theorem process_quick (now : Int64) :
    process r.quick q now s.untallied = untally (process r q now s) := by
  have hintent : intent r.quick q now = intent r q now := rfl
  unfold process
  rw [hintent]
  cases intent r q now with
  | error e => rfl
  | ok i =>
      cases i with
      | stop hash id provider => exact Prod.ext rfl (Store.drop_quick r.store s hash id provider)
      | join hash id u wanted =>
          dsimp only
          rw [register_quick]
          rfl

end Announce

theorem State.countRefusal_untallied {α : Type} (outcome : Except Refusal α) (s : State) :
    s.untallied.countRefusal outcome = (s.countRefusal outcome).untallied := by
  cases outcome with
  | error e => exact s.untallied_count e.counter_ne_kind 1
  | ok _ => rfl

theorem announce_quick (r : Rules) (q : Announcement) (now : Int64) (s : State) :
    announce r.quick q now s.untallied = untally (announce r q now s) := by
  unfold announce
  rw [s.untallied_count (by decide), Announce.process_quick]
  generalize Announce.process r q now _ = processed
  exact Prod.ext rfl (State.countRefusal_untallied processed.1 processed.2)

theorem scrape_untallied (s : State) (hashes : List Bytes) :
    scrape s.untallied hashes = untally (scrape s hashes) := by
  unfold scrape
  rw [s.untallied_count (by decide)]
  exact Prod.ext rfl (State.countRefusal_untallied _ _)

theorem sweep_quick (r : Rules) (now : Int64) (s : State) :
    sweep r.quick now s.untallied = untally (sweep r now s) := by
  unfold sweep
  have htrim := Store.trim_quick r.store s now r.timeout
  rw [show r.quick.store = r.store.quick from rfl, show r.quick.timeout = r.timeout from rfl, htrim]
  generalize Store.trim r.store s now r.timeout = swept
  refine Prod.ext rfl ?_
  show (swept.2.untallied.count _ _).count _ _ = _
  rw [State.untallied_count _ (by decide), State.untallied_count _ (by decide)]
  rfl

/-! ## Transports -/

namespace Http

variable (rules : Rules) (s : State)

theorem refuse_untallied (reason : String) :
    refuse reason s.untallied = untally (refuse reason s) :=
  Prod.ext rfl (s.untallied_count (by decide) 1)

theorem handleAnnounce_quick (q : Query) (ip : Net.IpAddr) (now : Int64) :
    handleAnnounce rules.quick q ip now s.untallied =
      untally (handleAnnounce rules q ip now s) := by
  unfold handleAnnounce
  rw [announce_quick]
  generalize announce rules (announcement q ip) now s = announced
  obtain ⟨outcome, s'⟩ := announced
  cases outcome with
  | error e => rfl
  | ok o => cases o <;> rfl

theorem handleScrape_untallied (q : Query) :
    handleScrape q s.untallied = untally (handleScrape q s) := by
  unfold handleScrape
  split
  · exact refuse_untallied s _
  · rw [scrape_untallied]
    generalize scrape s _ = scraped
    obtain ⟨outcome, s'⟩ := scraped
    cases outcome <;> rfl

theorem withQuery_untallied (r : Request) {handler handler' : Query → Reply × State}
    (h : ∀ q, handler' q = untally (handler q)) :
    withQuery r s.untallied handler' = untally (withQuery r s handler) := by
  unfold withQuery
  split
  · exact refuse_untallied s _
  · exact h _

theorem serve_quick (r : Request) (ip : Net.IpAddr) (now : Int64) {target : Route}
    (htarget : target ≠ .stats) :
    serve rules.quick r ip now s.untallied target = untally (serve rules r ip now s target) := by
  cases target with
  | announce => exact withQuery_untallied s r fun q => handleAnnounce_quick rules s q ip now
  | scrape => exact withQuery_untallied s r fun q => handleScrape_untallied s q
  | stats => exact absurd rfl htarget
  | unknown => rfl

theorem handle_quick (realIp : String) (r : Request) (now : Int64)
    (htarget : route r.path ≠ .stats) :
    handle rules.quick realIp r now s.untallied = untally (handle rules realIp r now s) := by
  unfold handle
  dsimp only
  split
  · rfl
  · split
    · exact refuse_untallied s _
    · exact serve_quick rules s r _ now htarget

/-- The published figures are the one answer in which the totals show. -/
theorem handle_quick_state (realIp : String) (r : Request) (now : Int64) :
    (handle rules.quick realIp r now s.untallied).2 =
      (handle rules realIp r now s).2.untallied := by
  by_cases htarget : route r.path = .stats
  · unfold handle
    dsimp only
    split
    · rfl
    · split
      · exact s.untallied_count (by decide) 1
      · rw [htarget]
        rfl
  · rw [handle_quick rules s realIp r now htarget]
    rfl

end Http

namespace Udp

variable (rules : Rules) (remote : Net.Endpoint) (usePayloadIp : Bool) (now : Int64) (s : State)

theorem refuse_untallied (t : Int32) (text : String) :
    refuse t text s.untallied = untally (refuse t text s) :=
  Prod.ext rfl (s.untallied_count (by decide) 1)

theorem handleAnnounce_quick (r : AnnounceRequest) :
    handleAnnounce rules.quick remote r usePayloadIp now s.untallied =
      untally (handleAnnounce rules remote r usePayloadIp now s) := by
  unfold handleAnnounce
  dsimp only
  split
  · exact refuse_untallied s _ _
  · rw [announce_quick]
    generalize announce rules _ now s = announced
    obtain ⟨outcome, s'⟩ := announced
    cases outcome with
    | error e => rfl
    | ok o => cases o <;> rfl

theorem handleScrape_untallied (r : ScrapeRequest) :
    handleScrape r s.untallied = untally (handleScrape r s) := by
  unfold handleScrape
  rw [scrape_untallied]
  generalize scrape s _ = scraped
  obtain ⟨outcome, s'⟩ := scraped
  cases outcome <;> rfl

theorem verified_quick (id : Int64) (t : Int32) {next next' : Response × State}
    (h : next' = untally next) :
    verified rules.quick remote id now t s.untallied next' =
      untally (verified rules remote id now t s next) := by
  unfold verified
  rw [show rules.quick.key = rules.key from rfl]
  split
  · exact h
  · exact refuse_untallied s t _

theorem handle_quick (datagram : Bytes) :
    handle rules.quick remote usePayloadIp now datagram s.untallied =
      untally (handle rules remote usePayloadIp now datagram s) := by
  have hanswer : ∀ {out out' : Response × State}, out' = untally out →
      ((some out'.1, out'.2) : Option Response × State) = untally (some out.1, out.2) := by
    rintro out out' rfl
    rfl
  unfold handle
  dsimp only
  split
  · exact hanswer (Prod.ext rfl (s.untallied_count (by decide) 1))
  · exact hanswer (verified_quick rules remote now s _ _
      (handleAnnounce_quick rules remote usePayloadIp now s _))
  · exact hanswer (verified_quick rules remote now s _ _ (handleScrape_untallied s _))
  · exact hanswer (verified_quick rules remote now s _ _ (refuse_untallied s _ _))
  · rfl

end Udp

/-! ## Demands -/

/-- What is said to a demand. -/
inductive Outcome where
  | announced (o : Except Refusal AnnounceOutcome)
  | scraped (o : Except Refusal (List ScrapeEntry))
  | replied (reply : Http.Reply)
  | sent (bs? : Option Bytes)
  | dropped
  | swept (t : Trimmed)
  | restored (o : Except Snapshot.Error (Nat × Nat))

namespace Demand

def outcome (rules : Rules) (s : State) : Demand → Outcome
  | announce q now _ => .announced (PeerTracker.announce rules q now s).1
  | scrape hashes => .scraped (PeerTracker.scrape s hashes).1
  | web realIp r now => .replied (Http.handle rules realIp r now s).1
  | datagram remote usePayloadIp now bs =>
    let (reply?, s) := Udp.handle rules remote usePayloadIp now bs s
    .sent (reply?.map fun reply => (reply.send s).1)
  | overflow => .dropped
  | sweep now => .swept (PeerTracker.sweep rules now s).1
  | restore bs => .restored (Store.restore rules.store s bs).1

/-- It asks for the published figures. -/
def AsksFigures : Demand → Prop
  | web _ r _ => Http.route r.path = .stats
  | _ => False

variable (rules : Rules) (s : State)

theorem exec_quick (d : Demand) :
    d.exec rules.quick s.untallied = (d.exec rules s).untallied := by
  cases d with
  | announce q now recycled =>
      unfold exec
      dsimp only
      rw [announce_quick]
      generalize PeerTracker.announce rules q now s = announced
      obtain ⟨outcome, s'⟩ := announced
      cases outcome with
      | error e => rfl
      | ok o =>
          cases o with
          | stopped => rfl
          | announced reply => cases recycled <;> rfl
  | scrape hashes => exact congrArg Prod.snd (scrape_untallied s hashes)
  | web realIp r now => exact Http.handle_quick_state rules s realIp r now
  | datagram remote usePayloadIp now bs =>
      unfold exec
      dsimp only
      rw [Udp.handle_quick]
      generalize Udp.handle rules remote usePayloadIp now bs s = handled
      obtain ⟨reply?, s'⟩ := handled
      cases reply? <;> rfl
  | overflow => exact s.untallied_count (by decide) 1
  | sweep now => exact congrArg Prod.snd (sweep_quick rules now s)
  | restore bs => exact congrArg Prod.snd (Store.restore_quick rules.store s bs)

theorem outcome_quick {d : Demand} (h : ¬d.AsksFigures) :
    d.outcome rules.quick s.untallied = d.outcome rules s := by
  cases d with
  | announce q now recycled =>
      exact congrArg (Outcome.announced ·.1) (announce_quick rules q now s)
  | scrape hashes => exact congrArg (Outcome.scraped ·.1) (scrape_untallied s hashes)
  | web realIp r now =>
      exact congrArg (Outcome.replied ·.1) (Http.handle_quick rules s realIp r now h)
  | datagram remote usePayloadIp now bs =>
      unfold outcome
      dsimp only
      rw [Udp.handle_quick]
      rfl
  | overflow => rfl
  | sweep now => exact congrArg (Outcome.swept ·.1) (sweep_quick rules now s)
  | restore bs => exact congrArg (Outcome.restored ·.1) (Store.restore_quick rules.store s bs)

end Demand

end PeerTracker
