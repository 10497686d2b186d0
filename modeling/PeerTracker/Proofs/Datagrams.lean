import PeerTracker.Proofs.Figures
import PeerTracker.Proofs.ReplyCodec
import PeerTracker.Proofs.Replies
import PeerTracker.Proofs.Unconnected

/-!
# Answers to datagrams

What a datagram is answered with depends on the action in its header and on what was found
behind it (`Request.Reads`). The answer carries the transaction id on, is of the kind that
was asked for or an error, and its list of peers is all of the family that the sender
reaches the tracker over (`Answers`). Hence the sender can read it.
-/

namespace PeerTracker.Udp

/-! ## What is read of a datagram -/

namespace Request

/-- No request that could be answered: less than a header, or a connect request without the
protocol's number. -/
def Unanswerable (d : Bytes) : Prop :=
  d.length < headerSize ∨ int32At d 8 = connectAction ∧ int64At d 0 ≠ protocolId

/-- What comes of reading a datagram, with what each result says of it. -/
inductive Reads (d : Bytes) : Except RequestError Request → Prop
  | unsendable (fault : Fault) (unanswerable : Unanswerable d) :
      Reads d (.error (.unsendable fault))
  | sendable (whole : headerSize ≤ d.length) (action : int32At d 8 ≠ connectAction) (id : Int64)
      (fault : Fault) :
      Reads d (.error (.sendable id (int32At d 12) fault))
  | connect (whole : headerSize ≤ d.length) (action : int32At d 8 = connectAction)
      (magic : int64At d 0 = protocolId) :
      Reads d (.ok (.connect (int32At d 12)))
  | announce (whole : headerSize ≤ d.length) (action : int32At d 8 = announceAction)
      (r : AnnounceRequest) (transaction : r.transactionId = int32At d 12) :
      Reads d (.ok (.announce r))
  | scrape (action : int32At d 8 = scrapeAction) (r : ScrapeRequest)
      (transaction : r.transactionId = int32At d 12)
      (number : d.length = headerSize + 20 * r.hashes.length) :
      Reads d (.ok (.scrape r))

theorem reads_decode (d : Bytes) : Reads d (decode d) := by
  have hverdict := verdict_decode d
  generalize decode d = result at hverdict
  cases hverdict with
  | short length => exact .unsendable _ (.inl length)
  | connect whole action magic => exact .connect whole action magic
  | stranger whole action magic => exact .unsendable _ (.inr ⟨action, magic⟩)
  | announce whole action => exact .announce (Nat.le_trans (by decide) whole) action _ rfl
  | cut whole action length => exact .sendable whole (by rw [action]; decide) _ _
  | scrape whole action hashes rest =>
      refine .scrape action _ rfl ?_
      have hlength := congrArg List.length rest
      rw [List.length_drop, length_flatMap_bytes] at hlength
      exact (Nat.sub_eq_iff_eq_add' whole).mp hlength
  | ragged whole action length => exact .sendable whole (by rw [action]; decide) _ _
  | unknown whole connect announce scrape => exact .sendable whole connect _ _

end Request

/-! ## What is answered -/

/-- What may answer a datagram, by the action in its header. -/
inductive Answers (remote : Net.Endpoint) (d : Bytes) : Response → Prop
  | connect (action : int32At d 8 = connectAction) (id : Int64) :
      Answers remote d (.connect (int32At d 12) id)
  | announce (action : int32At d 8 = announceAction) (a : AnnounceReply)
      (transaction : a.transactionId = int32At d 12) (ps : List Peer)
      (peers : a.peers = Peer.compacts (isV4Remote remote) ps) :
      Answers remote d (announceReply (isV4Remote remote) a)
  | scrape (action : int32At d 8 = scrapeAction) (counts : List ScrapeCounts)
      (number : d.length = headerSize + 20 * counts.length) :
      Answers remote d (.scrape (int32At d 12) counts)
  | error (action : int32At d 8 ≠ connectAction) (message : String) :
      Answers remote d (.error (int32At d 12) message)

variable {remote : Net.Endpoint} {d : Bytes}

theorem Answers.transactionId_eq {r : Response} (h : Answers remote d r) :
    r.transactionId = int32At d 12 := by
  cases h with
  | announce action a transaction ps peers =>
      unfold announceReply
      split <;> exact transaction
  | _ => rfl

theorem Answers.wellFormed {r : Response} (h : Answers remote d r) :
    r.WellFormed (isV4Remote remote) := by
  cases h with
  | announce action a transaction ps peers =>
      have hlength := Peer.length_compacts (isV4Remote remote) ps
      rw [← peers] at hlength
      cases hv4 : isV4Remote remote with
      | true =>
          rw [hv4] at hlength
          exact ⟨rfl, hlength ▸ Nat.mul_mod_right 6 _⟩
      | false =>
          rw [hv4] at hlength
          exact ⟨rfl, hlength ▸ Nat.mul_mod_right 18 _⟩
  | _ => trivial

variable {rules : Rules} {usePayloadIp : Bool} {now : Int64} {s : State}

theorem intoCompact_bytes {reply : AnnounceResult} {withIds : Bool} {es : List (PeerId × Peer)}
    (hform : reply.peers.isCompact = true) (hshows : reply.peers.Shows withIds es) (v4 : Bool)
    (pools : Pools) :
    (reply.intoCompact v4 pools).1.bytes = Peer.compacts v4 (es.map Prod.snd) := by
  unfold AnnounceResult.intoCompact
  cases hpeers : reply.peers with
  | verbose entries => rw [hpeers] at hform; cases hform
  | compact b4 b6 =>
      rw [hpeers] at hshows
      cases v4 with
      | true => exact hshows.1
      | false => exact hshows.2

theorem answers_handleAnnounce {limit : Nat} (hrestored : s.pools.Restored limit)
    (haction : int32At d 8 = announceAction) {r : AnnounceRequest}
    (htransaction : r.transactionId = int32At d 12) :
    Answers remote d (handleAnnounce rules remote r usePayloadIp now s).1 := by
  have hconnect : int32At d 8 ≠ connectAction := by rw [haction]; decide
  have hhash : (announcement remote r usePayloadIp).infoHash = r.infoHash.bytes := rfl
  unfold handleAnnounce
  dsimp only
  rw [htransaction]
  split
  · exact .error hconnect _
  · split
    · exact .error hconnect _
    · exact .announce haction _ rfl [] rfl
    · next reply _ heq =>
      obtain ⟨hform, w, -, ⟨es, -, hshows⟩, -⟩ :=
        announce_shows heq hrestored hhash
      exact .announce haction _ rfl (es.map Prod.snd) (intoCompact_bytes hform hshows _ _)

/-- A scrape that is answered gets an entry for each hash. -/
theorem length_of_scrape {hashes : List Bytes} {entries : List ScrapeEntry}
    (h : (scrape s hashes).1 = .ok entries) : entries.length = hashes.length := by
  obtain ⟨-, ids, rfl, rfl⟩ := Scrape.process_eq_ok_iff.mp h
  rw [List.length_map, List.length_map]

theorem answers_handleScrape (haction : int32At d 8 = scrapeAction) {r : ScrapeRequest}
    (htransaction : r.transactionId = int32At d 12)
    (hnumber : d.length = headerSize + 20 * r.hashes.length) :
    Answers remote d (handleScrape r s).1 := by
  have hconnect : int32At d 8 ≠ connectAction := by rw [haction]; decide
  unfold handleScrape
  rw [htransaction]
  split
  · next entries _ heq =>
    have hentries : entries.length = r.hashes.length := by
      rw [length_of_scrape (congrArg Prod.fst heq), List.length_map]
    refine .scrape haction (entries.map counts) ?_
    rw [List.length_map, hentries]
    exact hnumber
  · exact .error hconnect _

theorem answers_verified (hconnect : int32At d 8 ≠ connectAction) (id : Int64) {t : Int32}
    (ht : t = int32At d 12) {next : Response × State} (h : Answers remote d next.1) :
    Answers remote d (verified rules remote id now t s next).1 := by
  unfold verified
  split
  · exact h
  · rw [ht]
    exact .error hconnect _

theorem not_unanswerable (hwhole : headerSize ≤ d.length)
    (h : int32At d 8 = connectAction → int64At d 0 = protocolId) : ¬Request.Unanswerable d := by
  rintro (hshort | ⟨hconnect, hmagic⟩)
  · exact absurd hshort (Nat.not_lt.mpr hwhole)
  · exact hmagic (h hconnect)

/-- A datagram gets an answer, unless it is one that cannot be answered. -/
theorem handle_answers (rules : Rules) (remote : Net.Endpoint) (usePayloadIp : Bool) (now : Int64)
    (d : Bytes) {limit : Nat} (hrestored : s.pools.Restored limit) :
    ((handle rules remote usePayloadIp now d s).1 = none ∧ Request.Unanswerable d) ∨
      ∃ r, (handle rules remote usePayloadIp now d s).1 = some r ∧ ¬Request.Unanswerable d ∧
        Answers remote d r := by
  have hreads := Request.reads_decode d
  unfold handle
  generalize Request.decode d = result at hreads
  cases hreads with
  | unsendable fault unanswerable => exact .inl ⟨rfl, unanswerable⟩
  | sendable whole action id fault =>
      refine .inr ⟨_, rfl, not_unanswerable whole fun h => absurd h action, ?_⟩
      exact answers_verified action id rfl (.error action _)
  | connect whole action magic =>
      exact .inr ⟨_, rfl, not_unanswerable whole fun _ => magic, .connect action _⟩
  | announce whole action r transaction =>
      have hconnect : int32At d 8 ≠ connectAction := by rw [action]; decide
      refine .inr ⟨_, rfl, not_unanswerable whole fun h => absurd h hconnect, ?_⟩
      exact answers_verified hconnect _ transaction
        (answers_handleAnnounce hrestored action transaction)
  | scrape action r transaction number =>
      have hconnect : int32At d 8 ≠ connectAction := by rw [action]; decide
      have hwhole : headerSize ≤ d.length := by omega
      refine .inr ⟨_, rfl, not_unanswerable hwhole fun h => absurd h hconnect, ?_⟩
      exact answers_verified hconnect _ transaction
        (answers_handleScrape action transaction number)

theorem handle_of_announce {r : AnnounceRequest} (hdecode : Request.decode d = .ok (.announce r))
    (hverify : rules.key.verify r.connectionId remote now = true) :
    handle rules remote usePayloadIp now d s =
      (some (handleAnnounce rules remote r usePayloadIp now s).1,
        (handleAnnounce rules remote r usePayloadIp now s).2) := by
  simp only [handle, hdecode, verified, hverify, if_true]

/-- What is saved of the peer that announces itself. -/
def report (rules : Rules) (remote : Net.Endpoint) (r : AnnounceRequest) (usePayloadIp : Bool)
    (now : Int64) : Update :=
  let q := announcement remote r usePayloadIp
  Announce.update q q.ip.canonical r.port (rules.isProvider q.ip.canonical r.port) now

/-- A request with a port that is not a stop is never refused: any number of wanted peers
will do. -/
theorem intent_of_joining (rules : Rules) (remote : Net.Endpoint) {r : AnnounceRequest}
    (usePayloadIp : Bool) (now : Int64) (hport : r.port ≠ 0) (hevent : r.event ≠ .stopped) :
    ∃ wanted,
      Announce.resolveWanted rules (announcement remote r usePayloadIp).wanted = .ok wanted ∧
      Announce.intent rules (announcement remote r usePayloadIp) now = .ok
        (.join r.infoHash r.peerId (report rules remote r usePayloadIp now) wanted) := by
  have hpositive : ∀ n, (announcement remote r usePayloadIp).wanted = some n → 0 ≤ n.toInt := by
    intro n hn
    by_cases hwanted : 1 ≤ r.wanted.toInt
    · rw [announcement, if_pos hwanted, Option.some.injEq] at hn
      rw [← hn, Int32.toInt_toInt64]
      omega
    · rw [announcement, if_neg hwanted] at hn
      cases hn
  obtain ⟨wanted, hwanted⟩ := Announce.exists_resolveWanted_iff.mpr hpositive
  refine ⟨wanted, hwanted, Announce.intent_eq_join_iff.mpr ⟨rfl, rfl, hevent, r.port, ?_⟩⟩
  exact ⟨Announce.port?_ofNat hport, hwanted, rfl⟩

/-- What is written for a reply is the reply and nothing else. -/
theorem Response.send_bytes {limit : Nat} (hrestored : s.pools.Restored limit) (r : Response) :
    (r.send s).1 = r.encode := by
  show s.pools.getEncoder.1.bytes ++ r.encode = r.encode
  rw [hrestored.getEncoder.1, List.nil_append]

/-- **Answers are well formed.** Wherever a tracker has come to, and whatever datagram it
gets: it does not answer one that is shorter than a header or that wants to connect without
the protocol's number, and answers every other. The octets of the answer carry the
transaction id of the datagram on. The answer is of the kind that the action asks for, a
connection id, peers of the family that the sender uses or a triple for each hash, or an
error, which is all that an unknown action gets and a connect request never. It has the
announced size, and a sender that knows its own family reads from the octets the answer
that was given. -/
theorem answers_are_well_formed (rules : Rules) (limit : Nat) (random : RandomSource) {s : State}
    (hs : Reachable rules (.fresh limit random) s) (remote : Net.Endpoint) (usePayloadIp : Bool)
    (now : Int64) (d : Bytes) :
    let out := handle rules remote usePayloadIp now d s
    (out.1 = none ↔
      d.length < 16 ∨ int32At d 8 = connectAction ∧ int64At d 0 ≠ protocolId) ∧
      ∀ r, out.1 = some r →
        let bs := (r.send out.2).1
        slice bs 4 4 = slice d 12 4 ∧ Answers remote d r ∧ bs.length = r.size ∧
          Response.decode (isV4Remote remote) bs = .ok r := by
  intro out
  have hrestored : s.pools.Restored limit := hs.restored (Pools.restored_fresh limit)
  have hafter : out.2.pools.Restored limit :=
    Demand.restored_handle rules s hrestored remote usePayloadIp now d
  obtain ⟨hnone, hbad⟩ | ⟨r, hr, hgood, hanswers⟩ :=
    handle_answers rules remote usePayloadIp now d hrestored
  · refine ⟨⟨fun _ => hbad, fun _ => hnone⟩, fun r hr => ?_⟩
    cases hnone.symm.trans hr
  · refine ⟨⟨fun hnone => ?_, fun hbad => absurd hbad hgood⟩, fun r' hr' => ?_⟩
    · cases hnone.symm.trans hr
    · cases hr.symm.trans hr'
      have hwhole : 16 ≤ d.length := Nat.le_of_not_lt fun hshort => hgood (.inl hshort)
      intro bs
      have hbs : bs = r.encode := Response.send_bytes hafter r
      refine ⟨?_, hanswers, ?_, ?_⟩
      · rw [hbs, Response.transactionId_encode, hanswers.transactionId_eq, int32_int32At hwhole]
      · rw [hbs, Response.length_encode]
      · rw [hbs, Response.decode_encode hanswers.wellFormed]

/-- The announce of a peer on the hash of zeros, with an id that is good for `remote`. -/
def sampleRequest (remote : Net.Endpoint) : AnnounceRequest where
  connectionId := sampleRules.key.issue remote 5
  transactionId := 7
  infoHash := .zero
  peerId := .zero
  downloaded := 0
  left := 0
  uploaded := 0
  event := .started
  ip := none
  key := 0
  wanted := -1
  port := 6881

/-- A sender under the IPv6 form of an IPv4 address reads two peers of six octets. -/
theorem answers_are_well_formed_mapped :
    let remote : Net.Endpoint := ⟨.v6 ⟨0, 0, 0, 0, 0, 0xFFFF, 0x0A00, 0x0001⟩, 6881, 0⟩
    let start := State.fresh 74 (.ofList [])
    let s := (Demand.announce (sampleAnnouncement otherId) 1 true).exec sampleRules start
    let d := (Request.announce (sampleRequest remote)).encode
    let out := handle sampleRules remote false 5 d s
    Reachable sampleRules start s ∧ ∃ r, out.1 = some r ∧ (r.send out.2).1.length = 20 + 2 * 6 ∧
      slice (r.send out.2).1 4 4 = slice d 12 4 ∧
      Response.decode true (r.send out.2).1 = .ok r := by
  intro remote start s d out
  have hs : Reachable sampleRules start s := .serve _ .refl trivial
  have hsome : out.1.isSome = true := by decide +kernel
  have hsize : ∀ r, out.1 = some r → r.size = 20 + 2 * 6 := by decide +kernel
  obtain ⟨r, hr⟩ := Option.isSome_iff_exists.mp hsome
  obtain ⟨-, hanswers⟩ :=
    answers_are_well_formed sampleRules 74 (.ofList []) hs remote false 5 d
  obtain ⟨htransaction, -, hlength, hdecode⟩ := hanswers r hr
  exact ⟨hs, r, hr, hlength.trans (hsize r hr), htransaction, hdecode⟩

end PeerTracker.Udp
