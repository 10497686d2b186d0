import PeerTracker.Proofs.Fields
import PeerTracker.Proofs.RequestGrammar

/-!
# Requests as octets

A request is read back from what was written for it, unless it asks for a peer to be known
by the address of zeros, which stands for none. The other way round, what was read tells the
octets that it was read from, as far as they count: of a connect request the header, of an
announce the fixed fields, of a scrape everything. Only an unknown event is forgotten.
-/

namespace PeerTracker.Udp

namespace AnnounceRequest

/-- The fields behind the header. -/
def fields (r : AnnounceRequest) : Bytes :=
  r.infoHash.bytes ++ (r.peerId.bytes ++ (int64 r.downloaded ++ (int64 r.left ++
    (int64 r.uploaded ++ (int32 r.event.code ++ ((r.ip.getD .unspecified).octets ++
      (BigEndian.encode 4 r.key.toNat ++ (int32 r.wanted ++
        BigEndian.encode 2 r.port.toNat))))))))

theorem length_fields (r : AnnounceRequest) : r.fields.length = 82 := by
  simp [fields, r.infoHash.length_eq, r.peerId.length_eq, Net.Ipv4.octets]

end AnnounceRequest

namespace Request

open Cursor

/-! ## Reading what was written -/

theorem length_header (connectionId : Int64) (action transactionId : Int32) :
    (header connectionId action transactionId).length = headerSize := by
  simp [header, headerSize]

theorem reads_header (connectionId : Int64) (action transactionId : Int32) :
    readHeader.Reads (connectionId, action, transactionId)
      (header connectionId action transactionId) := by
  rw [header, List.append_assoc]
  refine (reads_int64 connectionId).bind ?_
  refine (reads_int32 action).bind ?_
  exact (reads_int32 transactionId).bind_pure

/-- An address that is written as zeros is read as none. -/
theorem ite_getD_unspecified {ip : Option Net.Ipv4} (h : ip ≠ some .unspecified) :
    (if ip.getD .unspecified = .unspecified then none else some (ip.getD .unspecified)) = ip := by
  cases ip with
  | none => rfl
  | some x => exact if_neg fun hx => h (congrArg some hx)

theorem reads_fields {r : AnnounceRequest} (h : r.ip ≠ some .unspecified) :
    (readAnnounce r.connectionId r.transactionId).Reads r r.fields := by
  refine (reads_identifier r.infoHash).bind ?_
  refine (reads_identifier r.peerId).bind ?_
  refine (reads_int64 r.downloaded).bind ?_
  refine (reads_int64 r.left).bind ?_
  refine (reads_int64 r.uploaded).bind ?_
  refine (reads_int32 r.event.code).bind ?_
  refine (reads_ipv4 (r.ip.getD .unspecified)).bind ?_
  refine (reads_word32 r.key).bind ?_
  refine (reads_int32 r.wanted).bind ?_
  rw [Event.ofCode_code, ite_getD_unspecified h]
  exact (reads_word16 r.port).bind_pure

/-- The address of zeros is written, but stands for none. -/
def Faithful : Request → Prop
  | announce r => r.ip ≠ some .unspecified
  | _ => True

theorem encode_announce (r : AnnounceRequest) :
    (announce r).encode = header r.connectionId announceAction r.transactionId ++ r.fields := by
  simp only [encode, AnnounceRequest.fields, List.append_assoc]

theorem decode_connect (t : Int32) : decode (connect t).encode = .ok (connect t) := by
  have hheader := (reads_header protocolId connectAction t).start []
  rw [List.append_nil] at hheader
  simp only [decode, encode, hheader, if_true]

theorem decode_announce {r : AnnounceRequest} (h : r.ip ≠ some .unspecified) :
    decode (announce r).encode = .ok (announce r) := by
  have hheader := (reads_header r.connectionId announceAction r.transactionId).start r.fields
  have hlength : (header r.connectionId announceAction r.transactionId ++ r.fields).length =
      announceSize := by
    rw [List.length_append, length_header, r.length_fields]
    rfl
  have hfields := reads_fields h (header r.connectionId announceAction r.transactionId) []
  rw [List.append_nil] at hfields
  have hconnect : ¬announceAction = connectAction := by decide
  simp only [decode, encode_announce, hheader, if_neg hconnect, if_true, hlength, hfields,
    Nat.lt_irrefl, if_false]

theorem decode_scrape (r : ScrapeRequest) : decode (scrape r).encode = .ok (scrape r) := by
  have hheader := (reads_header r.connectionId scrapeAction r.transactionId).start
    (r.hashes.flatMap (·.bytes))
  have hconnect : ¬scrapeAction = connectAction := by decide
  have hannounce : ¬scrapeAction = announceAction := by decide
  have hwhole : ¬20 * r.hashes.length % 20 ≠ 0 := not_not_intro (Nat.mul_mod_right 20 _)
  simp only [decode, encode, hheader, if_neg hconnect, if_neg hannounce, if_true,
    List.drop_left, length_flatMap_bytes, if_neg hwhole,
    Nat.mul_div_cancel_left _ (show 0 < 20 by decide), identifiers?_flatMap]

/-- A request is read back just when it does not ask for the address of zeros. -/
theorem decode_encode_iff (r : Request) : decode r.encode = .ok r ↔ r.Faithful := by
  cases r with
  | connect t => exact ⟨fun _ => trivial, fun _ => decode_connect t⟩
  | scrape r => exact ⟨fun _ => trivial, fun _ => decode_scrape r⟩
  | announce r =>
      refine ⟨fun h hzeros => ?_, decode_announce⟩
      -- the same octets as for no address at all
      have hsame : (announce r).encode = (announce { r with ip := none }).encode := by
        simp [encode, hzeros]
      rw [hsame, decode_announce (by simp)] at h
      have hnone := congrArg AnnounceRequest.ip (announce.inj (Except.ok.inj h))
      cases hnone.trans hzeros

/-! ## Writing what was read -/

section Fields

variable {bs : Bytes} {place : Nat}

theorem bytes_identifierAt (h : place + 20 ≤ bs.length) :
    (identifierAt bs place).bytes = slice bs place 20 := by
  have hlength : (slice bs place 20).length = 20 := by
    rw [length_slice]
    omega
  obtain ⟨i, hi⟩ := Option.isSome_iff_exists.mp
    ((Identifier.ofBytes?_isSome_iff _).mpr hlength)
  rw [identifierAt, hi, Option.getD_some, Identifier.bytes_of_ofBytes? hi]

theorem octets_ipv4At (h : place + 4 ≤ bs.length) :
    (ipv4At bs place).octets = slice bs place 4 := by
  have hlength : (slice bs place 4).length = 4 := by
    rw [length_slice]
    omega
  obtain ⟨x, hx⟩ := Option.isSome_iff_exists.mp
    ((Net.Ipv4.ofOctets?_isSome_iff _).mpr hlength)
  rw [ipv4At, hx, Option.getD_some, Net.Ipv4.octets_of_ofOctets? hx]

end Fields

theorem getD_ite_unspecified (x : Net.Ipv4) :
    (if x = .unspecified then none else some x).getD .unspecified = x := by
  split
  · next h => exact h.symm
  · rfl

/-- The field of an event that has a name; any other is written as none. -/
def namedEvent (field : Bytes) : Bytes :=
  if field ∈ [[0, 0, 0, 1], [0, 0, 0, 2], [0, 0, 0, 3]] then field else [0, 0, 0, 0]

theorem int32_code_ofCode (n : Int32) : int32 (Event.ofCode n).code = namedEvent (int32 n) := by
  have hmem : int32 n ∈ ([[0, 0, 0, 1], [0, 0, 0, 2], [0, 0, 0, 3]] : List Bytes) ↔
      n = 1 ∨ n = 2 ∨ n = 3 := by
    rw [List.mem_cons, List.mem_cons, List.mem_singleton, ← int32_inj, ← int32_inj (y := 2),
      ← int32_inj (y := 3)]
    rfl
  by_cases hnamed : n = 1 ∨ n = 2 ∨ n = 3
  · rw [namedEvent, if_pos (hmem.mpr hnamed)]
    rcases hnamed with rfl | rfl | rfl <;> rfl
  · rw [namedEvent, if_neg (fun h => hnamed (hmem.mp h))]
    rw [not_or, not_or] at hnamed
    rw [Event.ofCode, if_neg hnamed.1, if_neg hnamed.2.1, if_neg hnamed.2.2]
    rfl

theorem header_eq_take {d : Bytes} (h : headerSize ≤ d.length) :
    header (int64At d 0) (int32At d 8) (int32At d 12) = d.take 16 := by
  have hwhole : 16 ≤ d.length := h
  rw [header, int64_int64At (by omega), int32_int32At (by omega), int32_int32At (by omega),
    slice_append_slice d rfl, slice_append_slice d rfl]
  rfl

/-- The fields of an announce that begins at `place`, as they are written again. -/
theorem fields_announceAt {id : Int64} {t : Int32} {d : Bytes} {place : Nat}
    (h : place + 82 ≤ d.length) : (announceAt id t d place).fields =
      slice d place 64 ++ (namedEvent (slice d (place + 64) 4) ++ slice d (place + 68) 14) := by
  simp only [AnnounceRequest.fields, announceAt, getD_ite_unspecified, int32_code_ofCode]
  rw [bytes_identifierAt (by omega), bytes_identifierAt (by omega), int64_int64At (by omega),
    int64_int64At (by omega), int64_int64At (by omega), int32_int32At (by omega),
    octets_ipv4At (by omega), encode_word32At (by omega), int32_int32At (by omega),
    encode_word16At (by omega)]
  simp (disch := omega) only [slice_append_slice, slice_append_slice_append]

/-- The octets that a request read from a datagram stands for. -/
def heard (d : Bytes) : Request → Bytes
  | connect _ => d.take 16
  | announce _ => d.take 80 ++ namedEvent (slice d 80 4) ++ slice d 84 14
  | scrape _ => d

theorem encode_of_decode {d : Bytes} {r : Request} (h : decode d = .ok r) :
    r.encode = r.heard d := by
  have hverdict := verdict_decode d
  rw [h] at hverdict
  cases hverdict with
  | connect whole action magic =>
      rw [heard, ← header_eq_take whole, action, magic]
      rfl
  | announce whole action =>
      have hwhole : headerSize ≤ d.length := Nat.le_trans (by decide) whole
      have hheader := header_eq_take hwhole
      rw [action] at hheader
      rw [encode_announce, fields_announceAt (by exact whole), heard]
      show header (int64At d 0) announceAction (int32At d 12) ++ _ = _
      have hfront : d.take 16 ++ slice d headerSize 64 = d.take 80 := List.take_add.symm
      rw [hheader, ← List.append_assoc, hfront, ← List.append_assoc]
      rfl
  | scrape whole action hashes rest =>
      have hheader := header_eq_take whole
      rw [action] at hheader
      show header (int64At d 0) scrapeAction (int32At d 12) ++ hashes.flatMap (·.bytes) = d
      rw [hheader, ← rest]
      exact List.take_append_drop 16 d

/-- **Requests survive the wire.** A request is read back from the octets that are written
for it, just when it is no announce that asks for the address of zeros. And a request that
was read from a datagram is written as that datagram: a connect request as its header, an
announce as its first 98 octets, only that an event without a name becomes none, a scrape
as all of it. -/
theorem requests_survive_the_wire :
    (∀ r : Request, decode r.encode = .ok r ↔ r.Faithful) ∧
      ∀ d r, decode d = .ok r → r.encode = r.heard d :=
  ⟨decode_encode_iff, fun _ _ => encode_of_decode⟩

/-- An announce with the event 7, and two octets behind it. -/
def sampleAnnounce : Bytes :=
  header 5 announceAction 9 ++ List.replicate 64 1 ++ [0, 0, 0, 7] ++ List.replicate 16 2

/-- The event 7 has no name, so it is forgotten, and so is what stands behind the announce. -/
theorem requests_survive_the_wire_unnamed_event :
    ∃ r, decode sampleAnnounce = .ok (.announce r) ∧
      (announce r).encode = sampleAnnounce.take 80 ++ [0, 0, 0, 0] ++ List.replicate 14 2 := by
  have hdecode := decode_of_announce (d := sampleAnnounce) (by decide) (by decide)
  have hencode := requests_survive_the_wire.2 _ _ hdecode
  exact ⟨_, hdecode, hencode.trans (by decide)⟩

end Request

end PeerTracker.Udp
