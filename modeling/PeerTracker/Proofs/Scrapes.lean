import PeerTracker.Proofs.Datagrams
import PeerTracker.Proofs.Transports

/-!
# Scrapes

A scrape is answered from the counters of the swarms, which are recounts of their records
(`Store.hashStats_eq`). All that the transports add is the form: triples in the order of
the request in a datagram, a dictionary in the order of the hashes in a web reply. What
comes of a scrape is therefore stated once (`Scrape.Exact`), for any way to show a refusal
and to show answers, and brought from the service to both (`Scrape.exact_of_process`).
-/

namespace PeerTracker

/-! ## A scrape moves nothing -/

/-- What asks for a scrape, well formed or not. -/
def Demand.IsScrape : Demand → Prop
  | .scrape _ => True
  | .web _ r _ => Http.route r.path = .scrape
  | .datagram _ _ _ d => Udp.int32At d 8 = Udp.scrapeAction
  | _ => False

theorem Demand.IsScrape.actions_eq {d : Demand} (h : d.IsScrape) (rules : Rules) :
    d.actions rules = [] := by
  cases d with
  | scrape hashes => rfl
  | web realIp r now =>
      have hroute : Http.route r.path = .scrape := h
      simp [actions, announcement?, Http.announcement?, hroute]
  | datagram remote usePayloadIp now bs =>
      have haction : Udp.int32At bs 8 = Udp.scrapeAction := h
      have hreads := Udp.Request.reads_decode bs
      simp only [actions, announcement?, Udp.announcement?]
      generalize Udp.Request.decode bs = result at hreads
      cases hreads with
      | announce whole action r transaction =>
          rw [haction] at action
          exact absurd action (by decide)
      | _ => rfl
  | _ => cases h

theorem Demand.IsScrape.steady {d : Demand} (h : d.IsScrape) (rules : Rules) (s : State) :
    s.Steady (d.exec rules s) := by
  obtain ⟨t, hbefore, hafter⟩ := d.performs rules s
  rw [h.actions_eq] at hafter
  exact hbefore.trans hafter

/-! ## What comes of it -/

/-- What comes of asking for these hashes, in terms of what shows a refusal and what shows
the answers for identifiers. -/
structure Scrape.Exact (hashes : List Bytes) (Refused : String → Prop)
    (Answered : List InfoHash → Prop) : Prop where
  tooMany : Refused "74 hashes max" ↔ 74 < hashes.length
  bad : Refused "bad hash" ↔ hashes.length ≤ 74 ∧ ∃ bs ∈ hashes, bs.length ≠ 20
  answered : hashes.length ≤ 74 → (∀ bs ∈ hashes, bs.length = 20) →
    ∃ ids : List InfoHash, hashes = ids.map (·.bytes) ∧ Answered ids

section Exact

variable {s : State} {hashes : List Bytes} {Refused : String → Prop}
  {Answered : List InfoHash → Prop}

theorem Scrape.exact_of_process (hdistinct : Refused "74 hashes max" → ¬Refused "bad hash")
    (herror : ∀ e, process s hashes = .error e → Refused e.text)
    (hok : ∀ ids : List InfoHash, hashes = ids.map (·.bytes) →
      process s hashes = .ok (ids.map (entry s)) → (∀ text, ¬Refused text) ∧ Answered ids) :
    Exact hashes Refused Answered := by
  by_cases hmany : 74 < hashes.length
  · have hrefused : Refused "74 hashes max" :=
      herror .tooManyHashes ((process_eq s hashes).trans (if_pos hmany))
    exact ⟨iff_of_true hrefused hmany,
      iff_of_false (hdistinct hrefused) fun h => absurd h.1 (Nat.not_le.mpr hmany),
      fun hfew => absurd hfew (Nat.not_le.mpr hmany)⟩
  · have hfew : hashes.length ≤ 74 := Nat.le_of_not_lt hmany
    by_cases hbad : ∃ bs ∈ hashes, bs.length ≠ 20
    · have hrefused : Refused "bad hash" :=
        herror .badHash (by rw [process_eq, maxHashes, if_neg hmany, if_pos hbad])
      refine ⟨iff_of_false (fun h => hdistinct h hrefused) hmany,
        iff_of_true hrefused ⟨hfew, hbad⟩, fun _ hgood => ?_⟩
      obtain ⟨bs, hbs, hlength⟩ := hbad
      exact absurd (hgood bs hbs) hlength
    · have hgood : ∀ bs ∈ hashes, bs.length = 20 := fun bs hbs =>
        not_not.mp fun h => hbad ⟨bs, hbs, h⟩
      have hids := (Identifier.map_bytes_filterMap hgood).symm
      obtain ⟨hnone, hanswered⟩ := hok _ hids (process_eq_ok_iff.mpr ⟨hfew, _, hids, rfl⟩)
      exact ⟨iff_of_false (hnone _) hmany, iff_of_false (hnone _) fun h => hbad h.2,
        fun _ _ => ⟨_, hids, hanswered⟩⟩

end Exact

/-! ## Recounts in three forms -/

/-- The entry is a recount of the hash. -/
structure ScrapeEntry.Recounts (s : State) (hash : InfoHash) (e : ScrapeEntry) : Prop where
  complete : e.complete.toNat = Store.headcount s hash true
  incomplete : e.incomplete.toNat = Store.headcount s hash false
  downloaded : e.downloaded = -1

/-- The triple is a recount of the hash. -/
structure Udp.ScrapeCounts.Recounts (s : State) (hash : InfoHash) (c : ScrapeCounts) : Prop where
  seeders : c.seeders.toInt = Store.headcount s hash true
  completed : c.completed = -1
  leechers : c.leechers.toInt = Store.headcount s hash false

/-- The recount of a hash as it stands in a datagram. -/
def Udp.recount (s : State) (hash : InfoHash) : Bytes :=
  BigEndian.encode 4 (Store.headcount s hash true) ++ int32 (-1) ++
    BigEndian.encode 4 (Store.headcount s hash false)

/-- The recount of a hash as it stands in the dictionary of a web reply. -/
def Http.recount (s : State) (hash : InfoHash) : Bytes × Bencode :=
  (hash.bytes, .dict [(ascii "complete", .int (Store.headcount s hash true)),
    (ascii "downloaded", .int (-1)), (ascii "incomplete", .int (Store.headcount s hash false))])

section Recounts

variable {s : State} {hash : InfoHash} {e : ScrapeEntry}

theorem Scrape.recounts_entry (hs : s.Sound) (hsmall : (Store.listed s hash).length < 2 ^ 31) :
    (entry s hash).Recounts s hash := by
  have hlt : ∀ c, Store.headcount s hash c < 2 ^ 32 := fun c =>
    Nat.lt_trans (Nat.lt_of_le_of_lt (Store.headcount_le s hash c) hsmall) (by decide)
  rw [entry, Store.hashStats_eq hs]
  exact ⟨UInt32.toNat_ofNat_of_lt' (hlt true), UInt32.toNat_ofNat_of_lt' (hlt false), rfl⟩

theorem Udp.recounts_counts (h : e.Recounts s hash)
    (hsmall : (Store.listed s hash).length < 2 ^ 31) : (counts e).Recounts s hash := by
  have hlt : ∀ c, Store.headcount s hash c < 2 ^ 31 := fun c =>
    Nat.lt_of_le_of_lt (Store.headcount_le s hash c) hsmall
  refine ⟨?_, h.downloaded, ?_⟩
  · rw [← h.complete]
    exact toInt_toInt32 (h.complete ▸ hlt true)
  · rw [← h.incomplete]
    exact toInt_toInt32 (h.incomplete ▸ hlt false)

theorem Udp.encode_counts (h : e.Recounts s hash) : (counts e).encode = recount s hash := by
  rw [recount, ← h.complete, ← h.incomplete, ← h.downloaded]
  rfl

theorem Http.scrapeEntry_eq (h : e.Recounts s hash) :
    (hash.bytes, scrapeEntry e) = recount s hash := by
  have hkeys : Bencode.Increasing [(ascii "complete", .int e.complete.toNat),
      (ascii "downloaded", .int e.downloaded.toInt), (ascii "incomplete", .int e.incomplete.toNat)] :=
    .of_keys (by simp only [List.map_cons, List.map_nil]; decide)
  rw [scrapeEntry, Bencode.dictOf_of_perm (.refl _) hkeys, h.complete, h.incomplete, h.downloaded]
  rfl

theorem Http.canonical_recount (s : State) (hash : InfoHash) : (recount s hash).2.Canonical := by
  refine .dict (.of_keys (by simp only [List.map_cons, List.map_nil]; decide)) ?_
  intro e he
  simp only [List.mem_cons, List.not_mem_nil, or_false] at he
  rcases he with rfl | rfl | rfl <;> exact .int _

/-- The body has each hash once, however often it was asked for. -/
theorem Http.scrapeBody_eq (hs : s.Sound) (hsmall : ∀ hash, (Store.listed s hash).length < 2 ^ 31)
    (ids : List InfoHash) :
    ∃ files, scrapeBody (ids.map (·.bytes)) (ids.map (Scrape.entry s)) =
        (Bencode.dict [(ascii "files", .dict files)]).encode ∧
      (Bencode.dict [(ascii "files", .dict files)]).Canonical ∧
      ∀ e, e ∈ files ↔ ∃ id ∈ ids, e = recount s id := by
  have hentries : (ids.map (·.bytes)).zip ((ids.map (Scrape.entry s)).map scrapeEntry) =
      ids.map (recount s) := by
    rw [List.map_map, List.zip_map', List.map_inj_left]
    exact fun id _ => scrapeEntry_eq (Scrape.recounts_entry hs (hsmall id))
  have hmem : ∀ e, e ∈ ids.map (recount s) ↔ ∃ id ∈ ids, e = recount s id := fun e => by
    simp only [List.mem_map, eq_comm]
  have hconsistent : Bencode.Consistent (ids.map (recount s)) := by
    intro a ha b hb hkey
    obtain ⟨i, -, rfl⟩ := (hmem a).mp ha
    obtain ⟨j, -, rfl⟩ := (hmem b).mp hb
    rw [Identifier.bytes_inj hkey]
  obtain ⟨files, hfiles, hincreasing, hsame⟩ := Bencode.exists_dictOf_eq hconsistent
  refine ⟨files, ?_, ?_, fun e => (hsame e).trans (hmem e)⟩
  · rw [scrapeBody, hentries, hfiles]
    rfl
  · refine .dict (List.pairwise_singleton _ _) fun e he => ?_
    rw [List.mem_singleton.mp he]
    refine .dict hincreasing fun e he => ?_
    obtain ⟨id, -, rfl⟩ := (hmem e).mp ((hsame e).mp he)
    exact canonical_recount s id

end Recounts

/-! ## Over both transports -/

namespace Udp

variable {r : ScrapeRequest} {s : State}

theorem handleScrape_of_ok {entries : List ScrapeEntry}
    (h : Scrape.process s (r.hashes.map (·.bytes)) = .ok entries) :
    (handleScrape r s).1 = .scrape r.transactionId (entries.map counts) := by
  unfold handleScrape
  split
  · next heq =>
    cases h.symm.trans (congrArg Prod.fst heq)
    rfl
  · next heq => cases h.symm.trans (congrArg Prod.fst heq)

theorem handleScrape_of_error {e : Refusal}
    (h : Scrape.process s (r.hashes.map (·.bytes)) = .error e) :
    (handleScrape r s).1 = .error r.transactionId e.text := by
  have htext : e.publicText = e.text := if_pos (Scrape.isClient_of_process h)
  unfold handleScrape
  split
  · next heq => cases h.symm.trans (congrArg Prod.fst heq)
  · next heq =>
    cases h.symm.trans (congrArg Prod.fst heq)
    rw [htext]

end Udp

namespace Http

variable {q : Query} {s : State} {hashes : List Bytes} (hq : q.get? "info_hash" = some hashes)
  (hsome : hashes ≠ [])
include hq hsome

theorem handleScrape_of_ok {entries : List ScrapeEntry}
    (h : Scrape.process s hashes = .ok entries) :
    (handleScrape q s).1 = plain (scrapeBody hashes entries) := by
  unfold handleScrape
  rw [hq, Option.getD_some]
  split
  · exact absurd rfl hsome
  · split
    · next heq => cases h.symm.trans (congrArg Prod.fst heq)
    · next heq =>
      cases h.symm.trans (congrArg Prod.fst heq)
      rfl

theorem handleScrape_of_error {e : Refusal} (h : Scrape.process s hashes = .error e) :
    (handleScrape q s).1 = failure e.text := by
  have htext : e.publicText = e.text := if_pos (Scrape.isClient_of_process h)
  unfold handleScrape
  rw [hq, Option.getD_some]
  split
  · exact absurd rfl hsome
  · split
    · next heq =>
      cases h.symm.trans (congrArg Prod.fst heq)
      rw [htext]
    · next heq => cases h.symm.trans (congrArg Prod.fst heq)

end Http

section Transports

variable {s : State} (hs : s.Sound) (hsmall : ∀ hash, (Store.listed s hash).length < 2 ^ 31)
include hs hsmall

theorem Scrape.exact (hashes : List Bytes) :
    Exact hashes (fun text => ∃ e, (scrape s hashes).1 = .error e ∧ e.text = text) fun ids =>
      ∃ entries, (scrape s hashes).1 = .ok entries ∧
        List.Forall₂ (ScrapeEntry.Recounts s) ids entries := by
  have hfst : (scrape s hashes).1 = process s hashes := rfl
  rw [hfst]
  refine exact_of_process ?_ (fun e h => ⟨e, h, rfl⟩) fun ids _ h => ⟨?_, _, h, ?_⟩
  · rintro ⟨e, he, hmany⟩ ⟨e', he', hbad⟩
    cases he.symm.trans he'
    exact absurd (hmany.symm.trans hbad) (by decide)
  · rintro text ⟨e, he, -⟩
    cases h.symm.trans he
  · exact List.forall₂_map_right_iff.mpr
      (List.forall₂_same.mpr fun id _ => recounts_entry hs (hsmall id))

theorem Udp.exact_handleScrape (r : ScrapeRequest) :
    Scrape.Exact (r.hashes.map (·.bytes))
      (fun text => (handleScrape r s).1 = .error r.transactionId text) fun ids =>
        ∃ counts, (handleScrape r s).1 = .scrape r.transactionId counts ∧
          List.Forall₂ (ScrapeCounts.Recounts s) ids counts ∧
          counts.flatMap ScrapeCounts.encode = ids.flatMap (recount s) := by
  refine Scrape.exact_of_process ?_ (fun e => handleScrape_of_error) fun ids _ h => ?_
  · intro hmany hbad
    have htext := (Response.error.inj (hmany.symm.trans hbad)).2
    exact absurd htext (by decide)
  · have hreply := handleScrape_of_ok h
    have hentry : ∀ id, (Scrape.entry s id).Recounts s id := fun id =>
      Scrape.recounts_entry hs (hsmall id)
    refine ⟨fun text herror => ?_, _, hreply, ?_, ?_⟩
    · cases hreply.symm.trans herror
    · rw [List.map_map]
      refine List.forall₂_map_right_iff.mpr (List.forall₂_same.mpr fun id _ => ?_)
      exact recounts_counts (hentry id) (hsmall id)
    · rw [List.map_map, List.flatMap_map]
      exact congrArg (List.flatMap · ids) (funext fun id => encode_counts (hentry id))

theorem Http.exact_handleScrape {q : Query} {hashes : List Bytes}
    (hq : q.get? "info_hash" = some hashes) (hsome : hashes ≠ []) :
    Scrape.Exact hashes (fun text => (handleScrape q s).1 = failure text) fun ids =>
      ∃ files, (handleScrape q s).1 = plain (Bencode.dict [(ascii "files", .dict files)]).encode ∧
        (Bencode.dict [(ascii "files", .dict files)]).Canonical ∧
        ∀ e, e ∈ files ↔ ∃ id ∈ ids, e = recount s id := by
  refine Scrape.exact_of_process ?_ (fun e => handleScrape_of_error hq hsome) fun ids hids h => ?_
  · intro hmany hbad
    exact absurd (hmany.symm.trans hbad) (by decide +kernel)
  · have hreply := handleScrape_of_ok hq hsome h
    refine ⟨fun text herror => ?_, ?_⟩
    · have hbody : scrapeBody hashes (ids.map (Scrape.entry s)) = failureBody text :=
        congrArg Reply.body (hreply.symm.trans herror)
      exact not_isFailure_scrapeBody hashes _ (hbody ▸ isFailure_failureBody text)
    · obtain ⟨files, hbody, hfiles⟩ := scrapeBody_eq hs hsmall ids
      rw [hreply, hids, hbody]
      exact ⟨files, rfl, hfiles⟩

end Transports

theorem Udp.handle_of_scrape {rules : Rules} {remote : Net.Endpoint} {now : Int64} {d : Bytes}
    {r : ScrapeRequest} (hdecode : Request.decode d = .ok (.scrape r))
    (hverify : rules.key.verify r.connectionId remote now = true) (usePayloadIp : Bool)
    (s : State) :
    handle rules remote usePayloadIp now d s = (some (handleScrape r s).1, (handleScrape r s).2) := by
  simp only [handle, hdecode, verified, hverify, if_true]

theorem Http.handle_of_scrape {realIp : String} {r : Request} {ip : Net.IpAddr} {q : Query}
    (hroute : route r.path = .scrape) (hget : r.method = "GET") (hip : r.clientIp? realIp = some ip)
    (hquery : Query.parse r.query = .ok q) (rules : Rules) (now : Int64) (s : State) :
    handle rules realIp r now s = handleScrape q s := by
  simp only [handle, hroute, hget, hip, serve, withQuery, hquery, ne_eq, not_true_eq_false,
    and_false, if_false]

/-- **Scrapes are exact.** Wherever a tracker has come to with fewer than `2 ^ 31` peers in
every swarm, a scrape leaves the swarms as they are, be it refused, malformed or without a
connection. Whichever way it comes, it is refused for more than 74 hashes, and only then
with `74 hashes max`; otherwise for one that has not twenty octets, and only then with
`bad hash`; otherwise it is answered. The service gives a recount for each hash, in the
order of the request; a datagram has these as triples in the same order, and its octets
are those of the recounts; a web reply is the canonical form of a dictionary with just the
hashes that were asked for. -/
theorem scrapes_are_exact (rules : Rules) (limit : Nat) (random : RandomSource) {s : State}
    (hs : Reachable rules (.fresh limit random) s)
    (hsmall : ∀ hash, (Store.listed s hash).length < 2 ^ 31) :
    (∀ d : Demand, d.IsScrape → (d.exec rules s).swarms = s.swarms) ∧
    (∀ hashes,
      Scrape.Exact hashes (fun text => ∃ e, (scrape s hashes).1 = .error e ∧ e.text = text)
        fun ids => ∃ entries, (scrape s hashes).1 = .ok entries ∧
          List.Forall₂ (ScrapeEntry.Recounts s) ids entries) ∧
    (∀ remote usePayloadIp now d r, Udp.Request.decode d = .ok (.scrape r) →
      rules.key.verify r.connectionId remote now = true →
      let reply := (Udp.handle rules remote usePayloadIp now d s).1
      Scrape.Exact (r.hashes.map (·.bytes)) (fun text => reply = some (.error r.transactionId text))
        fun ids => ∃ counts, reply = some (.scrape r.transactionId counts) ∧
          List.Forall₂ (Udp.ScrapeCounts.Recounts s) ids counts ∧
          counts.flatMap Udp.ScrapeCounts.encode = ids.flatMap (Udp.recount s)) ∧
    ∀ realIp req now ip q hashes, Http.route req.path = .scrape → req.method = "GET" →
      req.clientIp? realIp = some ip → Query.parse req.query = .ok q →
      q.get? "info_hash" = some hashes → hashes ≠ [] →
      let reply := (Http.handle rules realIp req now s).1
      Scrape.Exact hashes (fun text => reply = Http.failure text)
        fun ids => ∃ files,
          reply = Http.plain (Bencode.dict [(ascii "files", .dict files)]).encode ∧
          (Bencode.dict [(ascii "files", .dict files)]).Canonical ∧
          ∀ e, e ∈ files ↔ ∃ id ∈ ids, e = Http.recount s id := by
  have hsound : s.Sound := hs.sound (State.sound_fresh limit random)
  refine ⟨fun d hd => (hd.steady rules s).swarms, Scrape.exact hsound hsmall, ?_, ?_⟩
  · intro remote usePayloadIp now d r hdecode hverify reply
    have hreply : reply = some (Udp.handleScrape r s).1 :=
      congrArg Prod.fst (Udp.handle_of_scrape hdecode hverify usePayloadIp s)
    simp only [hreply, Option.some_inj]
    exact Udp.exact_handleScrape hsound hsmall r
  · intro realIp req now ip q hashes hroute hget hip hquery hq hsome reply
    have hreply : reply = (Http.handleScrape q s).1 :=
      congrArg Prod.fst (Http.handle_of_scrape hroute hget hip hquery rules now s)
    simp only [hreply]
    exact Http.exact_handleScrape hsound hsmall hq hsome

/-- A query string with a hash that nobody has, and twice one that a seeder has. -/
def sampleScrape : Http.Request where
  target := ascii "/scrape?" ++ [38].intercalate ([otherId, .zero, .zero].map fun hash =>
    ascii "info_hash=" ++ Query.escape hash.bytes)
  remote := some ⟨.unspecified, 6881, 0⟩

theorem scrapes_are_exact_repeated :
    let start := State.fresh 74 (.ofList [])
    let s := (Demand.announce (sampleAnnouncement otherId) 1 true).exec Udp.sampleRules start
    let hashes : List InfoHash := [otherId, .zero, .zero]
    Reachable Udp.sampleRules start s ∧ (∀ hash, (Store.listed s hash).length < 2 ^ 31) ∧
      (∃ entries, (scrape s (hashes.map (·.bytes))).1 = .ok entries ∧
        List.Forall₂ (ScrapeEntry.Recounts s) hashes entries) ∧
      ∃ files, (Http.handle Udp.sampleRules "" sampleScrape 5 s).1 =
          Http.plain (Bencode.dict [(ascii "files", .dict files)]).encode ∧
        ∀ e, e ∈ files ↔ ∃ id ∈ hashes, e = Http.recount s id := by
  intro start s hashes
  have hs : Reachable Udp.sampleRules start s := .serve _ .refl trivial
  have hsmall : ∀ hash, (Store.listed s hash).length < 2 ^ 31 := by
    have hswarms : ∀ e ∈ s.swarms.entries, e.2.peers.entries.length < 2 ^ 31 := by decide +kernel
    intro hash
    cases hw : s.swarm? hash with
    | none => simp [Store.listed, hw]
    | some w =>
        rw [Store.listed_eq hw]
        exact hswarms (hash, w) ((s.swarms.get?_eq_some_iff hash w).mp hw)
  obtain ⟨-, hservice, -, hweb⟩ := scrapes_are_exact Udp.sampleRules 74 (.ofList []) hs hsmall
  have hroute : Http.route sampleScrape.path = .scrape := by decide +kernel
  have hquery : Query.parse sampleScrape.query =
      .ok (Table.ofList [("info_hash", hashes.map (·.bytes))]) := by
    decide +kernel
  have hread : ∀ ids : List InfoHash, hashes.map (·.bytes) = ids.map (·.bytes) → ids = hashes :=
    fun ids h => ((List.map_inj_right fun _ _ => Identifier.bytes_inj).mp h).symm
  have hgood : ∀ bs ∈ hashes.map (·.bytes), bs.length = 20 := by decide
  obtain ⟨ids, hids, hentries⟩ := (hservice _).answered (by decide) hgood
  obtain ⟨ids', hids', files, hreply, -, hfiles⟩ := (hweb "" sampleScrape 5 .unspecified _ _ hroute
    rfl rfl hquery rfl (List.cons_ne_nil _ _)).answered (by decide) hgood
  rw [hread ids hids] at hentries
  rw [hread ids' hids'] at hfiles
  exact ⟨hs, hsmall, hentries, files, hreply, hfiles⟩

end PeerTracker
