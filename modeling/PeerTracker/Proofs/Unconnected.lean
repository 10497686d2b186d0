import PeerTracker.Proofs.RequestGrammar
import PeerTracker.Udp.Handler

/-!
# Datagrams without a connection

What a sender gets who shows no connection id of its own. The ids that a datagram
shows stand in its header and survive whatever is wrong with the rest of it
(`shown_decode`), so the id is checked before the rest decides anything. No reply to
such a sender is long, hence nobody gains by sending in another's name.
-/

namespace PeerTracker.Udp

/-- Whether a datagram begins with a connection id that is good for its sender. -/
def connected (rules : Rules) (remote : Net.Endpoint) (now : Int64) (datagram : Bytes) : Bool :=
  decide (8 ≤ datagram.length) && rules.key.verify (int64At datagram 0) remote now

variable {rules : Rules} {remote : Net.Endpoint} {now : Int64} {datagram : Bytes}

theorem verify_of_not_connected (h : connected rules remote now datagram = false)
    (hlength : headerSize ≤ datagram.length) :
    rules.key.verify (int64At datagram 0) remote now = false := by
  have height : 8 ≤ datagram.length := Nat.le_trans (by decide) hlength
  rw [connected, decide_eq_true height, Bool.true_and] at h
  exact h

/-! ## The header decides -/

namespace Request

/-- The connection id and the transaction id that a read datagram shows; none if it wants
to connect or cannot be answered. -/
def shown : Except RequestError Request → Option (Int64 × Int32)
  | .ok (.announce r) => some (r.connectionId, r.transactionId)
  | .ok (.scrape r) => some (r.connectionId, r.transactionId)
  | .error (.sendable connectionId transactionId _) => some (connectionId, transactionId)
  | .ok (.connect _) => none
  | .error (.unsendable _) => none

variable {bs : Bytes}

/-- A fault that can be answered was found behind a header, and not in a connect request. -/
theorem header_of_sendable {id : Int64} {t : Int32} {fault : Fault}
    (h : decode bs = .error (.sendable id t fault)) :
    headerSize ≤ bs.length ∧ int32At bs 8 ≠ connectAction := by
  have hverdict := verdict_decode bs
  rw [h] at hverdict
  cases hverdict with
  | cut whole action length => exact ⟨whole, by rw [action]; decide⟩
  | ragged whole action length => exact ⟨whole, by rw [action]; decide⟩
  | unknown whole connect announce scrape => exact ⟨whole, connect⟩

/-- Past the header nothing can go wrong that would hide the ids. -/
theorem shown_decode (h : headerSize ≤ bs.length) (haction : int32At bs 8 ≠ connectAction) :
    shown (decode bs) = some (int64At bs 0, int32At bs 12) := by
  have hverdict := verdict_decode bs
  generalize decode bs = result at hverdict
  cases hverdict with
  | short length => exact absurd h (Nat.not_le.mpr length)
  | connect whole action magic => exact absurd action haction
  | stranger whole action magic => exact absurd action haction
  | _ => rfl

end Request

/-! ## The check comes first -/

theorem verified_of_not {id : Int64} (h : rules.key.verify id remote now = false) (t : Int32)
    (s : State) (next : Response × State) :
    verified rules remote id now t s next = refuse t "bad connid" s := by
  rw [verified, h]
  rfl

/-- Where the id that a datagram shows is no good, nothing else of it counts. -/
theorem handle_of_shown {id : Int64} {t : Int32}
    (hshown : Request.shown (Request.decode datagram) = some (id, t))
    (h : rules.key.verify id remote now = false) (usePayloadIp : Bool) (s : State) :
    handle rules remote usePayloadIp now datagram s =
      (some (.error t "bad connid"), s.count .clientErrors 1) := by
  unfold handle
  -- a request or a fault: each branch has its own continuation, and none is reached
  match hdecode : Request.decode datagram, hshown with
  | .ok (.announce r), hshown =>
      cases hshown
      dsimp only
      rw [verified_of_not h]
      rfl
  | .ok (.scrape r), hshown =>
      cases hshown
      dsimp only
      rw [verified_of_not h]
      rfl
  | .error (.sendable id t fault), hshown =>
      cases hshown
      dsimp only
      rw [verified_of_not h]
      rfl

/-- What comes of a datagram that shows no good connection id: it is dropped, it gets one,
or it is told that it has none. -/
inductive Unconnected (rules : Rules) (remote : Net.Endpoint) (now : Int64) (datagram : Bytes)
    (s : State) : Option Response × State → Prop
  | dropped
      (unreadable : datagram.length < headerSize ∨
        int32At datagram 8 = connectAction ∧ int64At datagram 0 ≠ protocolId) :
      Unconnected rules remote now datagram s (none, s)
  | connect (whole : headerSize ≤ datagram.length) (action : int32At datagram 8 = connectAction)
      (magic : int64At datagram 0 = protocolId) :
      Unconnected rules remote now datagram s
        (some (.connect (int32At datagram 12) (rules.key.issue remote now)),
          s.count .connects 1)
  | refused (whole : headerSize ≤ datagram.length)
      (action : int32At datagram 8 ≠ connectAction) :
      Unconnected rules remote now datagram s
        (some (.error (int32At datagram 12) "bad connid"), s.count .clientErrors 1)

theorem handle_unconnected (h : connected rules remote now datagram = false)
    (usePayloadIp : Bool) (s : State) :
    Unconnected rules remote now datagram s
      (handle rules remote usePayloadIp now datagram s) := by
  by_cases hlength : headerSize ≤ datagram.length
  · by_cases haction : int32At datagram 8 = connectAction
    · have hdecode := Request.decode_of_connect hlength haction
      by_cases hmagic : int64At datagram 0 = protocolId
      · rw [if_pos hmagic] at hdecode
        simp only [handle, hdecode]
        exact .connect hlength haction hmagic
      · rw [if_neg hmagic] at hdecode
        simp only [handle, hdecode]
        exact .dropped (.inr ⟨haction, hmagic⟩)
    · rw [handle_of_shown (Request.shown_decode hlength haction)
        (verify_of_not_connected h hlength)]
      exact .refused hlength haction
  · have hshort := Nat.lt_of_not_le hlength
    simp only [handle, Request.decode_of_short hshort]
    exact .dropped (.inl hshort)

/-! ## What it costs -/

/-- `s'` has the store, the pools and the random numbers of `s`, and has served as many
announces and scrapes. -/
structure Untouched (s s' : State) : Prop where
  swarms : s'.swarms = s.swarms
  pools : s'.pools = s.pools
  random : s'.random = s.random
  announces : s'.stats.read .announces = s.stats.read .announces
  scrapes : s'.stats.read .scrapes = s.stats.read .scrapes
  addresses : s'.stats.addresses = s.stats.addresses

theorem Unconnected.untouched {s : State} {out : Option Response × State}
    (h : Unconnected rules remote now datagram s out) : Untouched s out.2 := by
  cases h <;> exact ⟨rfl, rfl, rfl, rfl, rfl, rfl⟩

/-- The longest reply is the refusal. -/
theorem Unconnected.length_encode_le {s : State} {out : Option Response × State}
    (h : Unconnected rules remote now datagram s out) :
    ∀ r ∈ out.1, r.encode.length ≤ 18 := by
  intro r hr
  cases h with
  | dropped unreadable => cases hr
  | connect whole action magic =>
      cases hr
      simp [Response.encode]
  | refused whole action =>
      cases hr
      have htext : (Utf8.ofString "bad connid").length = 10 := by decide
      simp [Response.encode, htext]

/-- **A sender without a connection moves nothing.** Whatever the datagram, if it does not
begin with a connection id that is good for its sender at that time, then handling it
leaves the store, the pools, the random numbers, the announces and the scrapes as they
were. There are three results: nothing for less than a header and for a connect request
without the protocol's number, a new connection id for a connect request that has it, and
the error for a bad connection id otherwise, also where the action is unknown or the rest
of the datagram malformed. The reply is never longer than eighteen octets. -/
theorem unconnected_learns_nothing (rules : Rules) (remote : Net.Endpoint)
    (usePayloadIp : Bool) (now : Int64) (datagram : Bytes) (s : State)
    (h : connected rules remote now datagram = false) :
    let out := handle rules remote usePayloadIp now datagram s
    Untouched s out.2 ∧ Unconnected rules remote now datagram s out ∧
      (∀ r ∈ out.1, r.encode.length ≤ 18) ∧
      ∀ id t fault, Request.decode datagram = .error (.sendable id t fault) →
        out.1 = some (.error t "bad connid") := by
  intro out
  have hout : Unconnected rules remote now datagram s out := handle_unconnected h usePayloadIp s
  refine ⟨hout.untouched, hout, hout.length_encode_le, ?_⟩
  intro id t fault hdecode
  obtain ⟨hlength, haction⟩ := Request.header_of_sendable hdecode
  have hshown := Request.shown_decode hlength haction
  have hrefused := handle_of_shown hshown (verify_of_not_connected h hlength) usePayloadIp s
  rw [hdecode] at hshown
  cases hshown
  exact congrArg Prod.fst hrefused

/-- Rules with a secret that is all zeros. -/
def sampleRules : Rules where
  interval := 1800
  fuzz := 0
  numwantDefault := 50
  numwantLimit := 74
  timeout := 3600
  cleanupInterval := 60
  store := ⟨2, false⟩
  providers := []
  key := .ofLifetime (List.replicate 32 0) 120

/-- A header with the connection id 1, the action 5 and the transaction id 3. -/
def sampleDatagram : Bytes := Request.header 1 5 3

/-- The action 5 is unknown, but that is not what the sender is told. -/
theorem unconnected_learns_nothing_unknown_action :
    let remote : Net.Endpoint := ⟨.unspecified, 6881, 0⟩
    connected sampleRules remote 0 sampleDatagram = false ∧
      Request.decode sampleDatagram = .error (.sendable 1 3 .badAction) ∧
      (handle sampleRules remote false 0 sampleDatagram (.fresh 50 (.ofList []))).1 =
        some (.error 3 "bad connid") := by
  intro remote
  have hunconnected : connected sampleRules remote 0 sampleDatagram = false := by
    decide +kernel
  have hdecode : Request.decode sampleDatagram = .error (.sendable 1 3 .badAction) := rfl
  have hlearns := unconnected_learns_nothing sampleRules remote false 0 sampleDatagram
    (.fresh 50 (.ofList [])) hunconnected
  exact ⟨hunconnected, hdecode, hlearns.2.2.2 1 3 .badAction hdecode⟩

end PeerTracker.Udp
