import PeerTracker.Proofs.Demands
import PeerTracker.Proofs.Totals

/-!
# Which request moves which figures

The store keeps the totals of its peers and no other counter. An announce counts itself,
and a bad actor; gathering its reply counts nothing. What a service refuses is always the
client's mistake, so that `Refusal.server` never comes up; and datagrams that are dropped are
counted where they are dropped, and nowhere else (`Counter.IsQuiet.read_exec`).
-/

namespace PeerTracker

theorem State.read_count (s : State) (c d : Counter) (delta : Int64) :
    (s.count c delta).stats.read d =
      if d = c then s.stats.read d + delta else s.stats.read d :=
  s.stats.read_add c d delta

/-! ## The store counts its peers only -/

namespace Counter

/-- A total of peers, which only the store keeps. -/
def IsTotal (c : Counter) : Prop := ∃ complete, c = Stats.kind complete

theorem not_isTotal {c : Counter} (h : c ≠ .seeds ∧ c ≠ .leeches) : ¬c.IsTotal := by
  rintro ⟨complete, rfl⟩
  cases complete
  · exact h.2 rfl
  · exact h.1 rfl

end Counter

namespace Stats

variable {c : Counter} (h : ¬c.IsTotal) (st : Stats)
include h

theorem read_add_kind (complete : Bool) (delta : Int64) :
    (st.add (kind complete) delta).read c = st.read c := by
  rw [read_add, if_neg fun heq => h ⟨complete, heq⟩]

theorem read_leave (complete : Bool) (ip : Net.IpAddr) :
    (st.leave complete ip).read c = st.read c := by
  rw [leave, read_withAddresses, read_add_kind h]

theorem read_track (fast : Bool) (existing : Option Peer) (complete : Bool) (ip : Net.IpAddr) :
    (st.track fast existing complete ip).read c = st.read c := by
  unfold track
  split
  · rfl
  · cases existing with
    | none => exact (read_withAddresses _ _ c).trans (read_add_kind h st _ _)
    | some p =>
        show (st.move p.complete complete p.ip ip).read c = _
        unfold move
        dsimp only
        rw [read_withAddresses]
        split
        · rfl
        · rw [read_add_kind h, read_add_kind h]

end Stats

namespace Store

variable {c : Counter} (h : ¬c.IsTotal) (rules : StoreRules) (s : State) (hash : InfoHash)
  (id : PeerId)
include h

theorem read_save (u : Update) :
    (save rules s hash id u).2.stats.read c = s.stats.read c :=
  Stats.read_track h s.stats rules.fast _ u.complete u.ip

theorem read_drop (provider : Bool) :
    (drop rules s hash id provider).stats.read c = s.stats.read c := by
  cases hw : s.swarm? hash with
  | none => rw [drop_of_none rules hw]
  | some w =>
      rw [(drop_spec rules hw id provider).2]
      cases w.peers.get? id with
      | none => rfl
      | some p =>
          show (if rules.fast then s.stats else s.stats.leave p.complete p.ip).read c = _
          split
          · rfl
          · exact Stats.read_leave h s.stats _ _

theorem read_foldl_release (fast : Bool) (ps : List Peer) :
    (ps.foldl (State.release fast) s).stats.read c = s.stats.read c := by
  refine List.foldlRecOn (motive := fun t : State => t.stats.read c = s.stats.read c) ps _ rfl ?_
  intro t ht p _
  show (if fast then t.stats else t.stats.leave p.complete p.ip).read c = _
  split
  · exact ht
  · exact (Stats.read_leave h t.stats _ _).trans ht

theorem read_trim (now timeout : Int64) :
    (trim rules s now timeout).2.stats.read c = s.stats.read c := by
  refine trim_induction (P := fun t => t.stats.read c = s.stats.read c) rules now timeout ?_ s rfl
  intro acc hash w hacc _
  rw [(trimHash_spec rules.fast now timeout acc (hash, w)).2, read_foldl_release h]
  exact hacc

theorem read_loadPeer (fast : Bool) (acc : Swarm × State) (r : Snapshot.PeerRecord) :
    (loadPeer fast acc r).2.stats.read c = acc.2.stats.read c := by
  unfold loadPeer
  dsimp only
  split
  · rfl
  · exact Stats.read_track h acc.2.stats fast none r.complete r.ip

theorem read_replace (fast : Bool) (hash : InfoHash) (w : Swarm) :
    (replace fast s hash w).stats.read c = s.stats.read c := by
  unfold replace
  split
  · rfl
  · next old _ =>
    obtain ⟨gone, -, hstats⟩ := retire_stats fast (s.setSwarm hash w) old
    rw [hstats, read_foldl_release h]
    rfl

theorem read_load (records : List Snapshot.SwarmRecord) :
    (load rules s records).2.stats.read c = s.stats.read c := by
  refine List.foldlRecOn
    (motive := fun acc : (Nat × Nat) × State => acc.2.stats.read c = s.stats.read c) records _ rfl ?_
  intro acc hacc r _
  have hpeers : (r.peers.foldl (loadPeer rules.fast) (∅, acc.2)).2.stats.read c =
      s.stats.read c :=
    List.foldlRecOn (motive := fun acc : Swarm × State => acc.2.stats.read c = s.stats.read c)
      r.peers _ hacc fun acc' hacc' p _ => (read_loadPeer h rules.fast acc' p).trans hacc'
  unfold loadEntry
  dsimp only
  split
  · exact hpeers
  · rw [read_replace h, (foldl_loadProvider _ _).2.2]
    exact hpeers

end Store

/-! ## Gathering a reply counts nothing -/

section Answer

variable (s : State) (hash : InfoHash)

theorem Store.stats_pickProvider : (pickProvider s hash).2.stats = s.stats := by
  unfold pickProvider
  split
  · rfl
  · split <;> rfl

theorem Store.stats_baselineProvider (compact withIds : Bool) :
    (baselineProvider s hash compact withIds).2.stats = s.stats := by
  have hpick := stats_pickProvider s hash
  unfold baselineProvider
  split
  · next heq =>
    rw [heq] at hpick
    exact hpick
  · next heq =>
    rw [heq] at hpick
    split <;> exact hpick

namespace Announce

variable (r : Rules) (q : Announcement)

theorem stats_listing (wanted : Nat) : (listing q s hash wanted).2.stats = s.stats := by
  unfold listing
  split <;> rfl

theorem stats_hint (u : Update) : (hint q s hash u).2.stats = s.stats := by
  unfold hint
  split
  · rfl
  · exact Store.stats_baselineProvider s hash _ _

theorem stats_interval : (interval r s).2.stats = s.stats := by
  unfold interval
  split <;> rfl

theorem stats_answer (u : Update) (wanted : Nat) (badActor : Bool) :
    (answer r q hash u wanted badActor s).2.stats = s.stats := by
  have hlisting := stats_listing s hash q wanted
  have hhint := stats_hint (listing q s hash wanted).2 hash q u
  exact (stats_interval _ r).trans (hhint.trans hlisting)

/-- Saving counts the peers of the store, and a bad actor. -/
theorem read_enroll {c : Counter} (h : ¬c.IsTotal) (hactor : c ≠ .badActors) (id : PeerId)
    (u : Update) : (enroll r s hash id u).2.stats.read c = s.stats.read c := by
  have hsave := Store.read_save h r.store s hash id u
  show (if (Store.save r.store s hash id u).1 then _ else _ : State).stats.read c = _
  split
  · rw [State.read_count, if_neg hactor]
    exact hsave
  · exact hsave

end Announce

end Answer

/-! ## Services -/

open Announce

section Services

variable {r : Rules} {q : Announcement} {now : Int64} {s s' : State}

/-- A number of wanted peers is refused for being negative. -/
theorem Announce.eq_of_resolveWanted_error {wanted : Option Int64} {e : Refusal}
    (h : resolveWanted r wanted = .error e) : e = .badNumwant := by
  unfold resolveWanted at h
  split at h
  · cases h
  · split at h <;> cases h
    rfl

theorem Announce.isClient_of_intent {e : Refusal} (h : intent r q now = .error e) :
    e.isClient = true := by
  unfold intent at h
  split at h
  · cases h; rfl
  · split at h
    · cases h; rfl
    · dsimp only at h
      split at h
      · cases h
      · split at h
        · cases h; rfl
        · split at h
          · next hwanted =>
            cases h
            rw [eq_of_resolveWanted_error hwanted]
            rfl
          · cases h

theorem state_of_announce_error {e : Refusal} (h : announce r q now s = (.error e, s')) :
    s' = (s.count .announces 1).count .clientErrors 1 := by
  cases hintent : intent r q now with
  | error e' =>
      rw [announce_of_error hintent, Refusal.counter, isClient_of_intent hintent] at h
      cases h
      rfl
  | ok i =>
      cases i with
      | stop hash id provider =>
          rw [announce_of_stop hintent] at h
          cases h
      | join hash id u wanted =>
          rw [announce_of_join hintent] at h
          cases h

/-- An accepted announce counts itself, peers and bad actors. -/
theorem read_announce_ok {o : AnnounceOutcome} (h : announce r q now s = (.ok o, s'))
    {c : Counter} (htotal : ¬c.IsTotal) (hself : c ≠ .announces) (hactor : c ≠ .badActors) :
    s'.stats.read c = s.stats.read c := by
  have hcount : (s.count .announces 1).stats.read c = s.stats.read c := by
    rw [State.read_count, if_neg hself]
  cases hintent : intent r q now with
  | error e =>
      rw [announce_of_error hintent] at h
      cases h
  | ok i =>
      cases i with
      | stop hash id provider =>
          rw [announce_of_stop hintent] at h
          cases h
          rw [Store.read_drop htotal, hcount]
      | join hash id u wanted =>
          rw [announce_of_join hintent] at h
          cases h
          rw [stats_answer, read_enroll _ _ _ htotal hactor, hcount]

/-- A scrape as a whole: too many hashes, or a bad one, and it is refused; otherwise each hash
gets its entry. -/
theorem Scrape.process_eq (s : State) (hashes : List Bytes) :
    process s hashes =
      if maxHashes < hashes.length then .error .tooManyHashes
      else if ∃ bs ∈ hashes, bs.length ≠ 20 then .error .badHash
      else .ok ((hashes.filterMap Identifier.ofBytes?).map (entry s)) := by
  rw [process]
  congr 1
  induction hashes with
  | nil => exact (if_neg (by simp)).symm
  | cons bs hashes ih =>
      rw [List.mapM_cons, ih]
      cases hread : Identifier.ofBytes? bs with
      | none =>
          have hbad : bs.length ≠ 20 := fun h => by
            rw [← Identifier.ofBytes?_isSome_iff, hread] at h
            cases h
          exact (if_pos (⟨bs, List.mem_cons_self, hbad⟩ :
            ∃ cs ∈ bs :: hashes, cs.length ≠ 20)).symm
      | some hash =>
          have hgood : bs.length = 20 := (Identifier.ofBytes?_isSome_iff bs).mp (by rw [hread]; rfl)
          rw [List.filterMap_cons_some hread, List.map_cons]
          have hrest : (∃ cs ∈ bs :: hashes, cs.length ≠ 20) ↔ ∃ cs ∈ hashes, cs.length ≠ 20 := by
            simp [hgood]
          simp only [hrest]
          split <;> rfl

/-- An answered scrape has an entry for each hash, in their order. -/
theorem Scrape.process_eq_ok_iff {hashes : List Bytes} {entries : List ScrapeEntry} :
    process s hashes = .ok entries ↔ hashes.length ≤ maxHashes ∧
      ∃ ids : List InfoHash, hashes = ids.map (·.bytes) ∧ entries = ids.map (entry s) := by
  rw [process_eq]
  constructor
  · intro h
    split at h
    · cases h
    · next hfew =>
      split at h
      · cases h
      · next hgood =>
        cases h
        refine ⟨Nat.le_of_not_lt hfew, _, (Identifier.map_bytes_filterMap ?_).symm, rfl⟩
        exact fun bs hbs => not_not.mp fun h => hgood ⟨bs, hbs, h⟩
  · rintro ⟨hfew, ids, rfl, rfl⟩
    have hgood : ¬∃ bs ∈ ids.map (·.bytes), bs.length ≠ 20 := by
      simp [Identifier.length_eq]
    rw [if_neg (Nat.not_lt.mpr hfew), if_neg hgood, Identifier.filterMap_map_bytes]

theorem Scrape.isClient_of_process {hashes : List Bytes} {e : Refusal}
    (h : process s hashes = .error e) : e.isClient = true := by
  rw [process_eq] at h
  split at h
  · cases h; rfl
  · split at h <;> cases h
    rfl

theorem state_of_scrape_error {hashes : List Bytes} {e : Refusal}
    (h : scrape s hashes = (.error e, s')) :
    s' = (s.count .scrapes 1).count .clientErrors 1 := by
  obtain ⟨hprocess, hstate⟩ := Prod.mk.inj h
  have hclient := Scrape.isClient_of_process hprocess
  rw [← hstate, hprocess, State.countRefusal, Refusal.counter, hclient]
  rfl

theorem state_of_scrape_ok {hashes : List Bytes} {entries : List ScrapeEntry}
    (h : scrape s hashes = (.ok entries, s')) : s' = s.count .scrapes 1 := by
  obtain ⟨hprocess, hstate⟩ := Prod.mk.inj h
  rw [← hstate, hprocess, State.countRefusal]

end Services

/-! ## What no service counts -/

/-- A counter that no service moves. -/
def Counter.IsQuiet (c : Counter) : Prop := c = .serverErrors ∨ c = .queueDrops

namespace Counter.IsQuiet

variable {c : Counter} (h : c.IsQuiet)
include h

theorem not_isTotal : ¬c.IsTotal := by
  rcases h with rfl | rfl <;> exact Counter.not_isTotal (by decide)

theorem read_count {d : Counter} (hd : d ≠ .serverErrors ∧ d ≠ .queueDrops) (s : State)
    (delta : Int64) : (s.count d delta).stats.read c = s.stats.read c := by
  rw [State.read_count, if_neg]
  rintro rfl
  exact h.elim hd.1 hd.2

variable (rules : Rules) (now : Int64) (s : State)

theorem read_announce (q : Announcement) :
    (announce rules q now s).2.stats.read c = s.stats.read c := by
  rcases hresult : announce rules q now s with ⟨_ | o, s'⟩
  · rw [state_of_announce_error hresult, h.read_count (by decide), h.read_count (by decide)]
  · refine read_announce_ok hresult h.not_isTotal ?_ ?_ <;> rcases h with rfl | rfl <;> decide

omit rules now in
theorem read_scrape (hashes : List Bytes) :
    (scrape s hashes).2.stats.read c = s.stats.read c := by
  rcases hresult : scrape s hashes with ⟨_ | entries, s'⟩
  · rw [state_of_scrape_error hresult, h.read_count (by decide), h.read_count (by decide)]
  · rw [state_of_scrape_ok hresult, h.read_count (by decide)]

theorem read_handle (remote : Net.Endpoint) (usePayloadIp : Bool) (d : Bytes) :
    (Udp.handle rules remote usePayloadIp now d s).2.stats.read c = s.stats.read c := by
  have hverified : ∀ id t {next : Udp.Response × State}, next.2.stats.read c = s.stats.read c →
      (Udp.verified rules remote id now t s next).2.stats.read c = s.stats.read c := by
    intro id t next hnext
    unfold Udp.verified
    split
    · exact hnext
    · exact h.read_count (by decide) s 1
  unfold Udp.handle
  split
  · exact h.read_count (by decide) s 1
  · next r _ =>
    refine hverified _ _ ?_
    have hannounce := h.read_announce rules now s (Udp.announcement remote r usePayloadIp)
    unfold Udp.handleAnnounce
    split
    · exact h.read_count (by decide) s 1
    · split <;> next heq => rw [heq] at hannounce; exact hannounce
  · next r _ =>
    refine hverified _ _ ?_
    have hscrape := h.read_scrape s (r.hashes.map (·.bytes))
    unfold Udp.handleScrape
    split <;> next heq => rw [heq] at hscrape; exact hscrape
  · exact hverified _ _ (h.read_count (by decide) s 1)
  · rfl

theorem read_web (realIp : String) (r : Http.Request) :
    (Http.handle rules realIp r now s).2.stats.read c = s.stats.read c := by
  have hrefuse : ∀ reason, (Http.refuse reason s).2.stats.read c = s.stats.read c :=
    fun _ => h.read_count (by decide) s 1
  have hquery : ∀ {handler : Query → Http.Reply × State},
      (∀ q, (handler q).2.stats.read c = s.stats.read c) →
      (Http.withQuery r s handler).2.stats.read c = s.stats.read c := by
    intro handler hhandler
    unfold Http.withQuery
    split
    · exact hrefuse _
    · exact hhandler _
  unfold Http.handle
  dsimp only
  split
  · rfl
  · split
    · exact hrefuse _
    · next ip _ =>
      cases Http.route r.path with
      | announce =>
          refine hquery fun q => ?_
          have hannounce := h.read_announce rules now s (Http.announcement q ip)
          unfold Http.handleAnnounce
          split <;> next heq => rw [heq] at hannounce; exact hannounce
      | scrape =>
          refine hquery fun q => ?_
          have hscrape := h.read_scrape s ((q.get? "info_hash").getD [])
          unfold Http.handleScrape
          split
          · exact hrefuse _
          · split <;> next heq => rw [heq] at hscrape; exact hscrape
      | stats | unknown => rfl

/-- A tracker never counts a failure of its own, and a dropped datagram only where it drops one. -/
theorem read_exec {d : Demand} (hd : d ≠ .overflow) :
    (d.exec rules s).stats.read c = s.stats.read c := by
  cases d with
  | announce q now recycled =>
      have hannounce := h.read_announce rules now s q
      simp only [Demand.exec]
      split
      · next heq =>
        rw [heq] at hannounce
        split <;> exact hannounce
      · next heq => rw [heq] at hannounce; exact hannounce
  | scrape hashes => exact h.read_scrape s hashes
  | web realIp r now => exact h.read_web rules now s realIp r
  | datagram remote usePayloadIp now bs =>
      have hhandle := h.read_handle rules now s remote usePayloadIp bs
      simp only [Demand.exec]
      split <;> next heq => rw [heq] at hhandle; exact hhandle
  | overflow => exact absurd rfl hd
  | sweep now =>
      have htrim := Store.read_trim h.not_isTotal rules.store s now rules.timeout
      show (State.count (State.count _ _ _) _ _).stats.read c = _
      rw [h.read_count (by decide), h.read_count (by decide)]
      exact htrim
  | restore bs =>
      show (Store.restore rules.store s bs).2.stats.read c = _
      unfold Store.restore
      split
      · rfl
      · exact Store.read_load h.not_isTotal rules.store s _

end Counter.IsQuiet

end PeerTracker
