import PeerTracker.Udp.Request

/-!
# What is read as a request

Behind the header the cursor reads one field after the other, and each could run out of
octets. None does: the fields of a header, and those of an announce, are one field of 16 and
of 82 octets (`readHeader_eq_field`, `readAnnounce_eq_field`), and the length of the datagram
is looked at before. So there are eight outcomes (`Verdict`), and which of them it is depends
on the length, the action and the connection id alone (`decode_obeys_grammar`).
-/

namespace PeerTracker.Udp

/-! ## Fields by offset -/

namespace Cursor

def identifierAt (bs : Bytes) (place : Nat) : Identifier :=
  (Identifier.ofBytes? (slice bs place 20)).getD .zero

def ipv4At (bs : Bytes) (place : Nat) : Net.Ipv4 :=
  (Net.Ipv4.ofOctets? (slice bs place 4)).getD .unspecified

theorem identifier_eq_field : identifier = field 20 identifierAt :=
  whole_eq_field (by decide) Identifier.ofBytes?_isSome_iff .zero

theorem ipv4_eq_field : ipv4 = field 4 ipv4At :=
  whole_eq_field (by decide) Net.Ipv4.ofOctets?_isSome_iff .unspecified

end Cursor

namespace Request

open Cursor

theorem readHeader_eq_field : readHeader = field headerSize fun bs place =>
    (int64At bs place, int32At bs (place + 8), int32At bs (place + 12)) := by
  simp only [readHeader, Cursor.int64, Cursor.int32, field_bind_pure, field_bind_field]
  rfl

/-- The announce whose fields behind the header begin at `place`. -/
def announceAt (connectionId : Int64) (transactionId : Int32) (bs : Bytes) (place : Nat) :
    AnnounceRequest where
  connectionId := connectionId
  transactionId := transactionId
  infoHash := identifierAt bs place
  peerId := identifierAt bs (place + 20)
  downloaded := int64At bs (place + 40)
  left := int64At bs (place + 48)
  uploaded := int64At bs (place + 56)
  event := .ofCode (int32At bs (place + 64))
  ip := if ipv4At bs (place + 68) = .unspecified then none else some (ipv4At bs (place + 68))
  key := word32At bs (place + 72)
  wanted := int32At bs (place + 76)
  port := word16At bs (place + 80)

theorem readAnnounce_eq_field (connectionId : Int64) (transactionId : Int32) :
    readAnnounce connectionId transactionId =
      field (announceSize - headerSize) (announceAt connectionId transactionId) := by
  simp only [readAnnounce, identifier_eq_field, ipv4_eq_field, Cursor.int64, Cursor.int32,
    Cursor.word32, Cursor.word16, field_bind_pure, field_bind_field]
  rfl

/-! ## Identifiers that follow one another -/

theorem identifiers?_flatMap (hashes : List Identifier) :
    identifiers? hashes.length (hashes.flatMap (·.bytes)) = some hashes := by
  induction hashes with
  | nil => rfl
  | cons i hashes ih =>
      rw [List.flatMap_cons, List.length_cons, identifiers?, List.take_left' i.length_eq,
        List.drop_left' i.length_eq, Identifier.ofBytes?_bytes, ih]
      rfl

/-- No chunk is of the wrong size where the octets are a whole number of identifiers. -/
theorem eq_flatMap_of_length (n : Nat) {bs : Bytes} (h : bs.length = 20 * n) :
    ∃ hashes : List Identifier, bs = hashes.flatMap (·.bytes) := by
  induction n generalizing bs with
  | zero => exact ⟨[], List.length_eq_zero_iff.mp h⟩
  | succ n ih =>
      have hhead : (bs.take 20).length = 20 := by
        rw [List.length_take]
        omega
      have hrest : (bs.drop 20).length = 20 * n := by
        rw [List.length_drop]
        omega
      obtain ⟨hashes, hhashes⟩ := ih hrest
      refine ⟨⟨bs.take 20, hhead⟩ :: hashes, ?_⟩
      rw [List.flatMap_cons, ← hhashes, List.take_append_drop]

theorem length_flatMap_bytes (hashes : List Identifier) :
    (hashes.flatMap (·.bytes)).length = 20 * hashes.length := by
  induction hashes with
  | nil => rfl
  | cons i hashes ih =>
      rw [List.flatMap_cons, List.length_append, ih, i.length_eq, List.length_cons]
      omega

/-! ## The outcomes -/

/-- What comes of reading a datagram, with what each outcome says of it. -/
inductive Verdict (d : Bytes) : Except RequestError Request → Prop
  | short (length : d.length < headerSize) : Verdict d (.error (.unsendable .unexpectedEnd))
  | connect (whole : headerSize ≤ d.length) (action : int32At d 8 = connectAction)
      (magic : int64At d 0 = protocolId) :
      Verdict d (.ok (.connect (int32At d 12)))
  | stranger (whole : headerSize ≤ d.length) (action : int32At d 8 = connectAction)
      (magic : int64At d 0 ≠ protocolId) :
      Verdict d (.error (.unsendable .noProtocolId))
  | announce (whole : announceSize ≤ d.length) (action : int32At d 8 = announceAction) :
      Verdict d (.ok (.announce (announceAt (int64At d 0) (int32At d 12) d headerSize)))
  | cut (whole : headerSize ≤ d.length) (action : int32At d 8 = announceAction)
      (length : d.length < announceSize) :
      Verdict d (.error (.sendable (int64At d 0) (int32At d 12) .badPacket))
  | scrape (whole : headerSize ≤ d.length) (action : int32At d 8 = scrapeAction)
      (hashes : List InfoHash) (rest : d.drop headerSize = hashes.flatMap (·.bytes)) :
      Verdict d (.ok (.scrape ⟨int64At d 0, int32At d 12, hashes⟩))
  | ragged (whole : headerSize ≤ d.length) (action : int32At d 8 = scrapeAction)
      (length : (d.length - headerSize) % 20 ≠ 0) :
      Verdict d (.error (.sendable (int64At d 0) (int32At d 12) .badHash))
  | unknown (whole : headerSize ≤ d.length) (connect : int32At d 8 ≠ connectAction)
      (announce : int32At d 8 ≠ announceAction) (scrape : int32At d 8 ≠ scrapeAction) :
      Verdict d (.error (.sendable (int64At d 0) (int32At d 12) .badAction))

section Decode

variable {d : Bytes}

theorem decode_of_short (h : d.length < headerSize) :
    decode d = .error (.unsendable .unexpectedEnd) := by
  rw [decode, readHeader_eq_field, field_of_lt (by omega)]

theorem readHeader_run (h : headerSize ≤ d.length) :
    readHeader d 0 = some ((int64At d 0, int32At d 8, int32At d 12), headerSize) := by
  rw [readHeader_eq_field, field_of_le (by omega)]
  rfl

theorem decode_of_connect (h : headerSize ≤ d.length) (haction : int32At d 8 = connectAction) :
    decode d = if int64At d 0 = protocolId then .ok (.connect (int32At d 12))
      else .error (.unsendable .noProtocolId) := by
  simp only [decode, readHeader_run h, if_pos haction]

/-- Of an announce that is long enough no field is missing. -/
theorem decode_of_announce (h : announceSize ≤ d.length)
    (haction : int32At d 8 = announceAction) :
    decode d = .ok (.announce (announceAt (int64At d 0) (int32At d 12) d headerSize)) := by
  have hwhole : headerSize ≤ d.length := Nat.le_trans (by decide) h
  have hfields : headerSize + (announceSize - headerSize) ≤ d.length := h
  have hconnect : ¬int32At d 8 = connectAction := by rw [haction]; decide
  simp only [decode, readHeader_run hwhole, if_neg hconnect, if_pos haction,
    if_neg (Nat.not_lt.mpr h), readAnnounce_eq_field, field_of_le hfields]

/-- Of a scrape that has whole hashes none is refused. -/
theorem decode_of_scrape (h : headerSize ≤ d.length) (haction : int32At d 8 = scrapeAction)
    {hashes : List InfoHash} (hrest : d.drop headerSize = hashes.flatMap (·.bytes)) :
    decode d = .ok (.scrape ⟨int64At d 0, int32At d 12, hashes⟩) := by
  have hconnect : ¬int32At d 8 = connectAction := by rw [haction]; decide
  have hannounce : ¬int32At d 8 = announceAction := by rw [haction]; decide
  have hlength := length_flatMap_bytes hashes
  have hwhole : ¬20 * hashes.length % 20 ≠ 0 := not_not_intro (Nat.mul_mod_right 20 _)
  simp only [decode, readHeader_run h, if_neg hconnect, if_neg hannounce, if_pos haction, hrest,
    hlength, if_neg hwhole, Nat.mul_div_cancel_left _ (show 0 < 20 by decide),
    identifiers?_flatMap]

theorem verdict_decode (d : Bytes) : Verdict d (decode d) := by
  by_cases hshort : d.length < headerSize
  · rw [decode_of_short hshort]
    exact .short hshort
  have hwhole : headerSize ≤ d.length := Nat.le_of_not_lt hshort
  by_cases hconnect : int32At d 8 = connectAction
  · rw [decode_of_connect hwhole hconnect]
    split
    · next hmagic => exact .connect hwhole hconnect hmagic
    · next hmagic => exact .stranger hwhole hconnect hmagic
  by_cases hannounce : int32At d 8 = announceAction
  · by_cases hcut : d.length < announceSize
    · simp only [decode, readHeader_run hwhole, if_neg hconnect, if_pos hannounce, if_pos hcut]
      exact .cut hwhole hannounce hcut
    · rw [decode_of_announce (Nat.le_of_not_lt hcut) hannounce]
      exact .announce (Nat.le_of_not_lt hcut) hannounce
  by_cases hscrape : int32At d 8 = scrapeAction
  · have hlength : (d.drop headerSize).length = d.length - headerSize := List.length_drop
    by_cases hragged : (d.length - headerSize) % 20 = 0
    · have hchunks : (d.drop headerSize).length = 20 * ((d.length - headerSize) / 20) := by omega
      obtain ⟨hashes, hrest⟩ := eq_flatMap_of_length _ hchunks
      rw [decode_of_scrape hwhole hscrape hrest]
      exact .scrape hwhole hscrape hashes hrest
    · simp only [decode, readHeader_run hwhole, if_neg hconnect, if_neg hannounce,
        if_pos hscrape, hlength, if_pos hragged]
      exact .ragged hwhole hscrape hragged
  · simp only [decode, readHeader_run hwhole, if_neg hconnect, if_neg hannounce, if_neg hscrape]
    exact .unknown hwhole hconnect hannounce hscrape

end Decode

/-! ## The grammar, in octets -/

/-- The number of the protocol, which takes the place of a connection id. -/
def protocolOctets : Bytes := [0x00, 0x00, 0x04, 0x17, 0x27, 0x10, 0x19, 0x80]

/-- What a request looks like. -/
def Grammatical (d : Bytes) : Prop :=
  16 ≤ d.length ∧
    (slice d 8 4 = [0, 0, 0, 0] ∧ slice d 0 8 = protocolOctets ∨
      slice d 8 4 = [0, 0, 0, 1] ∧ 98 ≤ d.length ∨
      slice d 8 4 = [0, 0, 0, 2] ∧ 20 ∣ d.length - 16)

/-- What looks like no request of a client that could be told so. -/
def Hopeless (d : Bytes) : Prop :=
  d.length < 16 ∨ slice d 8 4 = [0, 0, 0, 0] ∧ slice d 0 8 ≠ protocolOctets

/-- What the others are told, by their action. -/
def complaint (action : Bytes) : String :=
  if action = [0, 0, 0, 1] then "bad packet"
  else if action = [0, 0, 0, 2] then "bad hash"
  else "bad action"

section Header

variable {d : Bytes} (h : headerSize ≤ d.length)

include h

theorem action_eq_iff (a : Int32) : int32At d 8 = a ↔ slice d 8 4 = int32 a :=
  int32At_eq_iff (Nat.le_trans (by decide) h) a

theorem magic_iff : int64At d 0 = protocolId ↔ slice d 0 8 = protocolOctets :=
  int64At_eq_iff (Nat.le_trans (by decide) h) protocolId

theorem connect_iff : int32At d 8 = connectAction ↔ slice d 8 4 = [0, 0, 0, 0] :=
  action_eq_iff h connectAction

theorem announce_iff : int32At d 8 = announceAction ↔ slice d 8 4 = [0, 0, 0, 1] :=
  action_eq_iff h announceAction

theorem scrape_iff : int32At d 8 = scrapeAction ↔ slice d 8 4 = [0, 0, 0, 2] :=
  action_eq_iff h scrapeAction

end Header

theorem not_hopeless_of_grammatical {d : Bytes} (h : Grammatical d) : ¬Hopeless d := by
  rintro (hshort | ⟨haction, hmagic⟩)
  · exact absurd h.1 (Nat.not_le.mpr hshort)
  · rcases h.2 with ⟨-, hmagic'⟩ | ⟨haction', -⟩ | ⟨haction', -⟩
    · exact hmagic hmagic'
    · cases haction.symm.trans haction'
    · cases haction.symm.trans haction'

/-- What an outcome says of the octets that were read. -/
def Describes (d : Bytes) : Except RequestError Request → Prop
  | .ok _ => Grammatical d
  | .error (.unsendable fault) =>
    Hopeless d ∧ fault.text =
      if d.length < 16 then "failed to fill whole buffer" else "protocol identifier missing"
  | .error (.sendable id t fault) =>
    (¬Grammatical d ∧ ¬Hopeless d) ∧ int64 id = slice d 0 8 ∧ int32 t = slice d 12 4 ∧
      fault.text = complaint (slice d 8 4)

/-- The ids that an error carries stand in the header; that the datagram could not be read
is up to the rest of it. -/
theorem describes_sendable {d : Bytes} {fault : Fault} (h : headerSize ≤ d.length)
    (hconnect : slice d 8 4 ≠ [0, 0, 0, 0])
    (hannounce : slice d 8 4 = [0, 0, 0, 1] → d.length < 98)
    (hscrape : slice d 8 4 = [0, 0, 0, 2] → ¬20 ∣ d.length - 16)
    (htext : fault.text = complaint (slice d 8 4)) :
    Describes d (.error (.sendable (int64At d 0) (int32At d 12) fault)) := by
  refine ⟨⟨?_, ?_⟩, int64_int64At (Nat.le_trans (by decide) h), int32_int32At h, htext⟩
  · rintro ⟨-, ⟨haction, -⟩ | ⟨haction, hlength⟩ | ⟨haction, hlength⟩⟩
    · exact hconnect haction
    · exact absurd hlength (Nat.not_le.mpr (hannounce haction))
    · exact hscrape haction hlength
  · rintro (hshort | ⟨haction, -⟩)
    · exact absurd h (Nat.not_le.mpr hshort)
    · exact hconnect haction

theorem Verdict.describes {d : Bytes} {result : Except RequestError Request}
    (h : Verdict d result) : Describes d result := by
  cases h with
  | short length => exact ⟨.inl length, (if_pos length).symm⟩
  | connect whole action magic =>
      exact ⟨whole, .inl ⟨(connect_iff whole).mp action, (magic_iff whole).mp magic⟩⟩
  | stranger whole action magic =>
      refine ⟨.inr ⟨(connect_iff whole).mp action, fun h => magic ((magic_iff whole).mpr h)⟩, ?_⟩
      exact (if_neg (Nat.not_lt.mpr whole)).symm
  | announce whole action =>
      have hwhole : headerSize ≤ d.length := Nat.le_trans (by decide) whole
      exact ⟨hwhole, .inr (.inl ⟨(announce_iff hwhole).mp action, whole⟩)⟩
  | cut whole action length =>
      have haction := (announce_iff whole).mp action
      refine describes_sendable whole ?_ (fun _ => length) ?_ ?_
      · simp [haction]
      · simp [haction]
      · simp [haction, complaint, Fault.text]
  | scrape whole action hashes rest =>
      have hlength := congrArg List.length rest
      rw [List.length_drop, length_flatMap_bytes] at hlength
      exact ⟨whole, .inr (.inr ⟨(scrape_iff whole).mp action, hashes.length, hlength⟩)⟩
  | ragged whole action length =>
      have haction := (scrape_iff whole).mp action
      refine describes_sendable whole ?_ ?_ (fun _ hdvd => length (Nat.mod_eq_zero_of_dvd hdvd)) ?_
      · simp [haction]
      · simp [haction]
      · simp [haction, complaint, Fault.text]
  | unknown whole connect announce scrape =>
      rw [Ne, connect_iff whole] at connect
      rw [Ne, announce_iff whole] at announce
      rw [Ne, scrape_iff whole] at scrape
      refine describes_sendable whole connect (absurd · announce) (absurd · scrape) ?_
      simp [announce, scrape, complaint, Fault.text]

/-- **What is a request is told by length, action and connection id.** A datagram is read as
a request just when it has a whole header and is a connect request with the protocol's
number, an announce of at least 98 octets or a scrape of whole hashes. It is dropped just
when it is shorter than a header or a connect request with another number. Every other one
is refused with the connection id and the transaction id that stand in its own header: as a
bad packet if it is an announce, as a bad hash if it is a scrape, and else as a bad action.
There is no other error. -/
theorem decode_obeys_grammar (d : Bytes) :
    ((∃ r, decode d = .ok r) ↔ Grammatical d) ∧
      ((∃ fault, decode d = .error (.unsendable fault) ∧ fault.text =
          if d.length < 16 then "failed to fill whole buffer" else "protocol identifier missing") ↔
        Hopeless d) ∧
      ((∃ id t fault, decode d = .error (.sendable id t fault) ∧ int64 id = slice d 0 8 ∧
          int32 t = slice d 12 4 ∧ fault.text = complaint (slice d 8 4)) ↔
        ¬Grammatical d ∧ ¬Hopeless d) := by
  have hdescribes := (verdict_decode d).describes
  -- each outcome settles one of the three conditions, and thereby the other two
  cases hdecode : decode d with
  | ok r =>
      rw [hdecode] at hdescribes
      have hhopeless := not_hopeless_of_grammatical hdescribes
      refine ⟨⟨fun _ => hdescribes, fun _ => ⟨r, rfl⟩⟩, ?_, ?_⟩
      · simp [hhopeless]
      · simp [show Grammatical d from hdescribes]
  | error e =>
      rw [hdecode] at hdescribes
      cases e with
      | unsendable fault =>
          obtain ⟨hhopeless, htext⟩ := hdescribes
          have hgrammar : ¬Grammatical d := fun h => not_hopeless_of_grammatical h hhopeless
          refine ⟨by simp [hgrammar], ⟨fun _ => hhopeless, fun _ => ⟨fault, rfl, htext⟩⟩, ?_⟩
          simp [hhopeless]
      | sendable id t fault =>
          obtain ⟨hrefused, hfields⟩ := hdescribes
          refine ⟨by simp [hrefused.1], by simp [hrefused.2], fun _ => hrefused, fun _ => ?_⟩
          exact ⟨id, t, fault, rfl, hfields⟩

end Request

end PeerTracker.Udp
