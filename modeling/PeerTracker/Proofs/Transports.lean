import PeerTracker.Proofs.Bodies
import PeerTracker.Proofs.Queries
import PeerTracker.Proofs.ReplyBuffers

/-!
# One tracker behind both transports

A datagram of fixed layout and a query string of names and values reach the same service.
Where they say the same, they make the same announcement (`announcement_of_reads`), so
that the tracker ends in the same state but for parked buffers, and the two replies show
one result.
-/

namespace PeerTracker

/-! ## Words of either sign -/

theorem toInt64_of_nonneg {x : Int32} (h : 0 ≤ x.toInt) :
    Int64.ofNat x.toInt.toNat = x.toInt64 := by
  apply Int64.toInt_inj.mp
  have hlt := x.toInt_lt
  rw [Int32.toInt_toInt64, Int64.toInt_ofNat_of_lt (by omega), Int.toNat_of_nonneg h]

theorem toNat_toUInt64 {x : Int64} (h : 0 ≤ x.toInt) : x.toUInt64.toNat = x.toInt.toNat := by
  have hword : x.toInt = x.toBitVec.toInt := rfl
  have hnat : x.toUInt64.toNat = x.toBitVec.toNat := rfl
  rw [hword, BitVec.toInt_eq_toNat_cond] at h ⊢
  rw [hnat]
  split at h <;> split <;> omega

theorem toInt_toInt32 {x : UInt32} (h : x.toNat < 2 ^ 31) : x.toInt32.toInt = x.toNat := by
  have hword : x.toInt32.toInt = x.toBitVec.toInt := rfl
  have hnat : x.toBitVec.toNat = x.toNat := rfl
  rw [hword, BitVec.toInt_eq_toNat_cond, hnat, if_pos (by omega)]

/-! ## The same request -/

/-- A request that a query string can carry: it has a port, says how many peers are wanted,
and counts no negative octets. -/
structure Udp.AnnounceRequest.Proper (r : Udp.AnnounceRequest) : Prop where
  port : r.port ≠ 0
  wanted : 1 ≤ r.wanted.toInt
  uploaded : 0 ≤ r.uploaded.toInt
  downloaded : 0 ≤ r.downloaded.toInt
  left : 0 ≤ r.left.toInt

namespace Http

/-- What a query string has to say instead of a datagram; the word is that of the event. -/
def announceForm (r : Udp.AnnounceRequest) (word : Option Bytes) : Table String Bytes where
  entries := [("info_hash", r.infoHash.bytes), ("peer_id", r.peerId.bytes),
    ("port", Decimal.write r.port.toNat), ("uploaded", Decimal.write r.uploaded.toInt.toNat),
    ("downloaded", Decimal.write r.downloaded.toInt.toNat),
    ("left", Decimal.write r.left.toInt.toNat), ("numwant", Decimal.write r.wanted.toInt.toNat),
    ("compact", ascii "1"), ("no_peer_id", ascii "1")] ++ word.toList.map (("event", ·))
  nodup := by
    have hnames : ["info_hash", "peer_id", "port", "uploaded", "downloaded", "left", "numwant",
        "compact", "no_peer_id", "event"].Nodup := by decide
    cases word with
    | none => exact hnames.sublist (List.sublist_append_left _ ["event"])
    | some word => exact hnames

/-- A query string that says the same as the request: the names in any order, the octets
in any spelling, and any word that is read as the event; without an event there need not
be a word. -/
def Carries (raw : Bytes) (r : Udp.AnnounceRequest) : Prop :=
  ∃ (word : Option Bytes) (items : List Query.Item), word.elim .none Event.ofWord = r.event ∧
    Query.Fills (announceForm r word) items ∧ Query.Renders raw items

section Carries

variable {r : Udp.AnnounceRequest} {word : Option Bytes}

theorem isKey_announceForm : ∀ name ∈ (announceForm r word).keys, Query.IsKey name := by
  have hnames : ∀ name ∈ ["info_hash", "peer_id", "port", "uploaded", "downloaded", "left",
      "numwant", "compact", "no_peer_id", "event"], Query.IsKey name := by decide +kernel
  intro name hname
  apply hnames
  cases word with
  | none => exact List.mem_append_left ["event"] hname
  | some word => exact hname

section Reads

variable {q : Query} (hq : q.Reads (announceForm r word))
include hq

theorem port_of_reads : number q "port" Decimal.readInt64? = some (Int64.ofNat r.port.toNat) := by
  have hport : r.port.toNat < Decimal.negativeLimit := Nat.lt_trans r.port.toNat_lt (by decide)
  have hmem : ("port", Decimal.write r.port.toNat) ∈ (announceForm r word).entries := by
    simp [announceForm]
  rw [number, hq.number?_eq hmem, Decimal.readInt64?_write hport]
  rfl

theorem wanted_of_reads (hwanted : 1 ≤ r.wanted.toInt) :
    q.number? "numwant" Decimal.readInt64? = some (some r.wanted.toInt64) := by
  have hlt : r.wanted.toInt.toNat < Decimal.negativeLimit := by
    have hword := r.wanted.toInt_lt
    rw [Decimal.negativeLimit]
    omega
  have hmem : ("numwant", Decimal.write r.wanted.toInt.toNat) ∈
      (announceForm r word).entries := by simp [announceForm]
  rw [hq.number?_eq hmem, Decimal.readInt64?_write hlt, toInt64_of_nonneg (by omega)]

theorem count_of_reads {name : String} {x : Int64} (hx : 0 ≤ x.toInt)
    (hmem : (name, Decimal.write x.toInt.toNat) ∈ (announceForm r word).entries) :
    number q name Decimal.readUInt64? = some x.toUInt64 := by
  have hnat : x.toInt.toNat = x.toUInt64.toNat := (toNat_toUInt64 hx).symm
  rw [number, hq.number?_eq hmem, hnat, Decimal.readUInt64?_write x.toUInt64.toNat_lt,
    UInt64.ofNat_toNat]
  rfl

theorem event_of_reads : Event.ofWord ((q.value? "event").getD []) =
    word.elim .none Event.ofWord := by
  cases word with
  | none =>
      have hnone : (announceForm r none).get? "event" = none := by
        simp [announceForm, Table.get?, Table.find]
      rw [hq.value?_eq_none hnone]
      decide
  | some word =>
      have hmem : ("event", word) ∈ (announceForm r (some word)).entries := by
        simp [announceForm]
      rw [hq.value?_eq hmem]
      rfl

/-- Both transports make the same announcement. -/
theorem announcement_of_reads (hproper : r.Proper) (hword : word.elim .none Event.ofWord = r.event)
    (remote : Net.Endpoint) : announcement q remote.ip = Udp.announcement remote r false := by
  have hhash : q.value? "info_hash" = some r.infoHash.bytes := hq.value?_eq (by simp [announceForm])
  have hid : q.value? "peer_id" = some r.peerId.bytes := hq.value?_eq (by simp [announceForm])
  have hcompact : q.flag "compact" = true := hq.flag_eq (by simp [announceForm])
  have hnoId : q.flag "no_peer_id" = true := hq.flag_eq (by simp [announceForm])
  have huploaded : number q "uploaded" Decimal.readUInt64? = some r.uploaded.toUInt64 :=
    count_of_reads hq hproper.uploaded (by simp [announceForm])
  have hdownloaded : number q "downloaded" Decimal.readUInt64? = some r.downloaded.toUInt64 :=
    count_of_reads hq hproper.downloaded (by simp [announceForm])
  have hleft : number q "left" Decimal.readUInt64? = some r.left.toUInt64 :=
    count_of_reads hq hproper.left (by simp [announceForm])
  have hip : Udp.peerIp remote r false = remote.ip := by
    unfold Udp.peerIp
    split <;> rfl
  rw [announcement, hhash, hid, hcompact, hnoId, huploaded, hdownloaded, hleft,
    port_of_reads hq, wanted_of_reads hq hproper.wanted, event_of_reads hq, hword]
  rw [Udp.announcement, hip, if_pos hproper.wanted, Udp.byteCount, Udp.byteCount,
    if_neg (Int.not_lt.mpr hproper.uploaded), if_neg (Int.not_lt.mpr hproper.downloaded),
    if_neg (Int.not_lt.mpr hproper.left)]
  rfl

end Reads

end Carries

end Http

/-! ## The same result -/

/-- The state is the same but for what is parked. -/
structure State.SameButPools (s t : State) : Prop where
  swarms : t.swarms = s.swarms
  stats : t.stats = s.stats
  random : t.random = s.random

/-- A reply by datagram and a body that show one result: the body is the dictionary with
the numbers and the peers of both families, and the datagram has those numbers, as far as
they fit, and the peers of one family. -/
def ShowOne (v4 : Bool) (a : Udp.AnnounceReply) (body : Bytes) : Prop :=
  ∃ (result : AnnounceResult) (peers peers6 : Bytes),
    body = (Bencode.dict (Http.compactEntries result peers peers6)).encode ∧
      (result.incomplete.toNat < 2 ^ 31 → a.leechers.toInt = result.incomplete.toNat) ∧
      (result.complete.toNat < 2 ^ 31 → a.seeders.toInt = result.complete.toNat) ∧
      a.peers = if v4 then peers else peers6

namespace Udp

variable {r : AnnounceRequest}

/-- A proper request is not refused. -/
theorem intent_of_proper (rules : Rules) (remote : Net.Endpoint) (now : Int64)
    (hproper : r.Proper) :
    (r.event = .stopped ∧ ∃ provider,
      Announce.intent rules (announcement remote r false) now =
        .ok (.stop r.infoHash r.peerId provider)) ∨
      (r.event ≠ .stopped ∧ ∃ u wanted,
        Announce.intent rules (announcement remote r false) now =
          .ok (.join r.infoHash r.peerId u wanted)) := by
  by_cases hevent : r.event = .stopped
  · exact .inl ⟨hevent, _, Announce.intent_eq_stop_iff.mpr ⟨rfl, rfl, hevent, rfl⟩⟩
  · obtain ⟨wanted, -, hintent⟩ := intent_of_joining rules remote false now hproper.port hevent
    exact .inr ⟨hevent, _, wanted, hintent⟩

end Udp

theorem AnnounceResult.intoCompact_of_compact {reply : AnnounceResult} {b4 b6 : Buffer}
    (h : reply.peers = .compact b4 b6) (v4 : Bool) (pools : Pools) :
    (reply.intoCompact v4 pools).1 = if v4 then b4 else b6 := by
  unfold intoCompact
  rw [h]
  cases v4 <;> rfl

/-- Over both transports an announce came to the same state, and to replies that acknowledge
a stop or show one result. -/
def Agree (v4 : Bool) (event : Event) (udp : Option Udp.Response × State)
    (web : Http.Reply × State) : Prop :=
  udp.2.SameButPools web.2 ∧ ∃ a, udp.1 = some (Udp.announceReply v4 a) ∧
    if event = .stopped then web.1 = Http.plain []
    else ∃ body, web.1 = Http.plain body ∧ ShowOne v4 a body

section Agree

variable {rules : Rules} {remote : Net.Endpoint} {now : Int64} {r : Udp.AnnounceRequest} {q : Query}
  {s s' : State} (hsame : Http.announcement q remote.ip = Udp.announcement remote r false)
  (hport : r.port ≠ 0)
include hsame hport

theorem agree_of_stopped (hevent : r.event = .stopped)
    (h : announce rules (Udp.announcement remote r false) now s = (.ok .stopped, s')) :
    let udp := Udp.handleAnnounce rules remote r false now s
    Agree (Udp.isV4Remote remote) r.event (some udp.1, udp.2)
      (Http.handleAnnounce rules q remote.ip now s) := by
  simp only [Udp.handleAnnounce, Http.handleAnnounce, if_neg hport, hsame, h]
  exact ⟨⟨rfl, rfl, rfl⟩, _, rfl, by rw [if_pos hevent]⟩

theorem agree_of_announced (hevent : r.event ≠ .stopped) {result : AnnounceResult}
    {b4 b6 : Buffer} (hpeers : result.peers = .compact b4 b6)
    (h : announce rules (Udp.announcement remote r false) now s = (.ok (.announced result), s')) :
    let udp := Udp.handleAnnounce rules remote r false now s
    Agree (Udp.isV4Remote remote) r.event (some udp.1, udp.2)
      (Http.handleAnnounce rules q remote.ip now s) := by
  simp only [Udp.handleAnnounce, Http.handleAnnounce, if_neg hport, hsame, h]
  have hbody : Http.announceBody result =
      (Bencode.dict (Http.compactEntries result b4.bytes b6.bytes)).encode := by
    rw [Http.announceBody, hpeers]
    exact Http.compactBody_eq result b4.bytes b6.bytes
  refine ⟨⟨rfl, rfl, rfl⟩, _, rfl, ?_⟩
  rw [if_neg hevent]
  refine ⟨_, rfl, result, b4.bytes, b6.bytes, hbody, toInt_toInt32, toInt_toInt32, ?_⟩
  show (result.intoCompact _ _).1.bytes = _
  rw [AnnounceResult.intoCompact_of_compact hpeers]
  split <;> rfl

end Agree

/-- **Both transports do the same.** Let a datagram be an announce with a connection id
that is good for its sender, a port, a number of wanted peers and counts that are not
negative, and let a query string carry the same. From any state, handling the datagram and
handling the query from the same address end with the same swarms, the same figures and
the same random numbers. A stop is acknowledged over both. Otherwise both replies show one
result: the leechers and seeders of the one are the incomplete and complete peers of the
other, and its peers are `peers` for an IPv4 sender and `peers6` for an IPv6 one. -/
theorem transports_agree (rules : Rules) (remote : Net.Endpoint) (now : Int64) (s : State)
    {d raw : Bytes} {r : Udp.AnnounceRequest} (hdecode : Udp.Request.decode d = .ok (.announce r))
    (hverify : rules.key.verify r.connectionId remote now = true) (hproper : r.Proper)
    (hcarries : Http.Carries raw r) :
    ∃ q, Query.parse raw = .ok q ∧
      Agree (Udp.isV4Remote remote) r.event (Udp.handle rules remote false now d s)
        (Http.handleAnnounce rules q remote.ip now s) := by
  obtain ⟨word, items, hword, hfills, hrenders⟩ := hcarries
  have hreads := Query.reads_of_fills hfills Http.isKey_announceForm
  have hsame := Http.announcement_of_reads hreads hproper hword remote
  refine ⟨_, Query.parse_of_fills hfills Http.isKey_announceForm hrenders, ?_⟩
  rw [Udp.handle_of_announce hdecode hverify]
  obtain ⟨hevent, provider, hintent⟩ | ⟨hevent, u, wanted, hintent⟩ :=
    Udp.intent_of_proper rules remote now hproper
  · exact agree_of_stopped hsame hproper.port hevent (announce_of_stop hintent)
  · have hcompact : (Udp.announcement remote r false).compact = true := rfl
    obtain ⟨⟨b4, b6, hpeers⟩, -⟩ := idleLists_answer true rules r.infoHash u
      (Announce.enroll rules (s.count .announces 1) r.infoHash r.peerId u).2 hcompact wanted
      (Announce.enroll rules (s.count .announces 1) r.infoHash r.peerId u).1
    exact agree_of_announced hsame hproper.port hevent hpeers (announce_of_join hintent)

/-- A peer that starts, under the IPv6 form of an IPv4 address, and wants fifty others. -/
theorem transports_agree_started :
    let remote : Net.Endpoint := ⟨.v6 ⟨0, 0, 0, 0, 0, 0xFFFF, 0x0A00, 0x0001⟩, 6881, 0⟩
    let r := { Udp.sampleRequest remote with wanted := 50 }
    let d := (Udp.Request.announce r).encode
    let raw := Query.write (Http.announceForm r (some (ascii "started")))
    let s := State.fresh 74 (.ofList [])
    Udp.Request.decode d = .ok (.announce r) ∧ r.Proper ∧ Http.Carries raw r ∧
      ∃ q, Query.parse raw = .ok q ∧
        Agree true .started (Udp.handle Udp.sampleRules remote false 5 d s)
          (Http.handleAnnounce Udp.sampleRules q remote.ip 5 s) := by
  intro remote r d raw s
  have hdecode : Udp.Request.decode d = .ok (.announce r) := by decide +kernel
  have hverify : Udp.sampleRules.key.verify r.connectionId remote 5 = true := by decide +kernel
  have hproper : r.Proper := by constructor <;> decide
  have hcarries : Http.Carries raw r :=
    ⟨some (ascii "started"), _, by decide, .refl _, Query.renders_write _⟩
  exact ⟨hdecode, hproper, hcarries,
    transports_agree Udp.sampleRules remote 5 s hdecode hverify hproper hcarries⟩

end PeerTracker
