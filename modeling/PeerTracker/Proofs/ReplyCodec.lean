import PeerTracker.Proofs.Fields
import PeerTracker.Proofs.Texts
import PeerTracker.Udp.Response

/-!
# Replies as octets

A reply is a header of eight octets, the action and the transaction id, and what is
particular to its kind (`Response.encode_eq`). A reader that is told the family of the
peers gets the reply back just when a list of peers ends where a peer does
(`Response.decode_encode_iff`), and else is told that a peer is cut short. The other way
round, what was read is written as the octets that it was read from, but for what follows a
connection id and for a message that is no text.
-/

namespace PeerTracker.Udp

namespace ScrapeCounts

theorem length_encode (c : ScrapeCounts) : c.encode.length = 12 := by
  simp [encode]

theorem length_flatMap_encode (counts : List ScrapeCounts) :
    (counts.flatMap encode).length = 12 * counts.length := by
  induction counts with
  | nil => rfl
  | cons c counts ih =>
      rw [List.flatMap_cons, List.length_append, ih, c.length_encode, List.length_cons,
        Nat.mul_succ, Nat.add_comm]

end ScrapeCounts

namespace Response

/-- The action that stands for a kind of reply. -/
def action : Response → Int32
  | connect _ _ => connectAction
  | announce4 _ => announceAction
  | announce6 _ => announceAction
  | scrape _ _ => scrapeAction
  | error _ _ => errorAction

/-- What follows the header. -/
def body : Response → Bytes
  | connect _ connectionId => int64 connectionId
  | announce4 r => int32 r.interval ++ (int32 r.leechers ++ (int32 r.seeders ++ r.peers))
  | announce6 r => int32 r.interval ++ (int32 r.leechers ++ (int32 r.seeders ++ r.peers))
  | scrape _ counts => counts.flatMap ScrapeCounts.encode
  | error _ message => Utf8.ofString message

theorem encode_eq (r : Response) :
    r.encode = int32 r.action ++ (int32 r.transactionId ++ r.body) := by
  cases r <;> simp only [encode, AnnounceReply.encode, List.append_assoc] <;> rfl

theorem length_encode (r : Response) : r.encode.length = r.size := by
  have hheader : r.encode.length = 8 + r.body.length := by
    rw [encode_eq, List.length_append, List.length_append, length_int32, length_int32]
    omega
  rw [hheader]
  cases r with
  | connect t id => simp [body, size]
  | announce4 a => simp [body, size]; omega
  | announce6 a => simp [body, size]; omega
  | scrape t counts => rw [body, size, ScrapeCounts.length_flatMap_encode]
  | error t message => rfl

theorem transactionId_encode (r : Response) :
    slice r.encode 4 4 = int32 r.transactionId := by
  rw [encode_eq, slice_skip (length_int32 _) _ 0, slice_head (length_int32 _)]

/-- A list of peers that ends where a peer of its family does. -/
def WellFormed (ipv4 : Bool) : Response → Prop
  | announce4 r => ipv4 = true ∧ r.peers.length % 6 = 0
  | announce6 r => ipv4 = false ∧ r.peers.length % 18 = 0
  | _ => True

/-- A list of peers that ends within one, as the reader counts them. -/
def Ragged (ipv4 : Bool) : Response → Prop
  | announce4 r => r.peers.length % entrySize ipv4 ≠ 0
  | announce6 r => r.peers.length % entrySize ipv4 ≠ 0
  | _ => False

/-! ## Reading what was written -/

section Written

open Cursor

theorem reads_header (action t : Int32) :
    readHeader.Reads (action, t) (Udp.int32 action ++ Udp.int32 t) :=
  (reads_int32 action).bind (reads_int32 t).bind_pure

theorem reads_figures (interval leechers seeders : Int32) :
    readFigures.Reads (interval, leechers, seeders)
      (Udp.int32 interval ++ (Udp.int32 leechers ++ Udp.int32 seeders)) :=
  (reads_int32 interval).bind ((reads_int32 leechers).bind (reads_int32 seeders).bind_pure)

theorem reads_counts (counts : List ScrapeCounts) :
    (readCounts counts.length).Reads counts (counts.flatMap ScrapeCounts.encode) := by
  induction counts with
  | nil => exact .pure []
  | cons c counts ih =>
      rw [List.flatMap_cons, ScrapeCounts.encode, List.append_assoc, List.append_assoc]
      refine (reads_int32 c.seeders).bind ?_
      refine (reads_int32 c.completed).bind ?_
      refine (reads_int32 c.leechers).bind ?_
      exact ih.bind_pure

variable (ipv4 : Bool)

theorem decode_connect (t : Int32) (id : Int64) :
    decode ipv4 (connect t id).encode = .ok (connect t id) := by
  have hheader := (reads_header connectAction t).start (Udp.int64 id)
  have hid := reads_int64 id (Udp.int32 connectAction ++ Udp.int32 t) []
  rw [List.append_nil] at hid
  simp only [decode, encode, hheader, if_true, hid]

theorem announce_encode_eq (a : AnnounceReply) : a.encode =
    (int32 announceAction ++ int32 a.transactionId) ++
      ((int32 a.interval ++ (int32 a.leechers ++ int32 a.seeders)) ++ a.peers) := by
  simp only [AnnounceReply.encode, List.append_assoc]

/-- A list of peers is taken for one of the reader's own family. -/
theorem decode_announce_eq (a : AnnounceReply) : decode ipv4 a.encode =
    if a.peers.length % entrySize ipv4 ≠ 0 then .error .truncatedPeer
    else .ok (if ipv4 then announce4 a else announce6 a) := by
  have hconnect : ¬announceAction = connectAction := by decide
  have hheader := (reads_header announceAction a.transactionId).start
    ((int32 a.interval ++ (int32 a.leechers ++ int32 a.seeders)) ++ a.peers)
  have hfigures := reads_figures a.interval a.leechers a.seeders
    (int32 announceAction ++ int32 a.transactionId) a.peers
  simp only [decode, announce_encode_eq, hheader, if_neg hconnect, if_true, hfigures, drop_behind]

theorem decode_scrape (t : Int32) (counts : List ScrapeCounts) :
    decode ipv4 (scrape t counts).encode = .ok (scrape t counts) := by
  have hconnect : ¬scrapeAction = connectAction := by decide
  have hannounce : ¬scrapeAction = announceAction := by decide
  have hwhole : ¬12 * counts.length % 12 ≠ 0 := not_not_intro (Nat.mul_mod_right 12 _)
  have hheader := (reads_header scrapeAction t).start (counts.flatMap ScrapeCounts.encode)
  have hcounts := reads_counts counts (Udp.int32 scrapeAction ++ Udp.int32 t) []
  rw [List.append_nil] at hcounts
  simp only [decode, encode, hheader, if_neg hconnect, if_neg hannounce, if_true, List.drop_left,
    ScrapeCounts.length_flatMap_encode, if_neg hwhole,
    Nat.mul_div_cancel_left _ (show 0 < 12 by decide), hcounts]

theorem decode_error (t : Int32) (message : String) :
    decode ipv4 (error t message).encode = .ok (error t message) := by
  have hconnect : ¬errorAction = connectAction := by decide
  have hannounce : ¬errorAction = announceAction := by decide
  have hscrape : ¬errorAction = scrapeAction := by decide
  have hheader := (reads_header errorAction t).start (Utf8.ofString message)
  simp only [decode, encode, hheader, if_neg hconnect, if_neg hannounce, if_neg hscrape, if_true,
    List.drop_left, Utf8.lossyString_ofString]

/-- A reader of the right family gets back what was written. -/
theorem decode_encode_iff (r : Response) : decode ipv4 r.encode = .ok r ↔ r.WellFormed ipv4 := by
  cases r with
  | connect t id => exact ⟨fun _ => trivial, fun _ => decode_connect ipv4 t id⟩
  | scrape t counts => exact ⟨fun _ => trivial, fun _ => decode_scrape ipv4 t counts⟩
  | error t message => exact ⟨fun _ => trivial, fun _ => decode_error ipv4 t message⟩
  | announce4 a =>
      rw [encode, decode_announce_eq, WellFormed]
      cases ipv4 <;> split <;> simp_all [entrySize]
  | announce6 a =>
      rw [encode, decode_announce_eq, WellFormed]
      cases ipv4 <;> split <;> simp_all [entrySize]

theorem decode_encode {ipv4 : Bool} {r : Response} (h : r.WellFormed ipv4) :
    decode ipv4 r.encode = .ok r := (decode_encode_iff ipv4 r).mpr h

/-- Nothing else is wrong with a reply than a peer that is cut short. -/
theorem decode_encode_eq_error_iff (r : Response) (e : ResponseError) :
    decode ipv4 r.encode = .error e ↔ e = .truncatedPeer ∧ r.Ragged ipv4 := by
  cases r with
  | connect t id => simp [decode_connect, Ragged]
  | scrape t counts => simp [decode_scrape, Ragged]
  | error t message => simp [decode_error, Ragged]
  | announce4 a =>
      rw [encode, decode_announce_eq, Ragged]
      split <;> simp_all [eq_comm]
  | announce6 a =>
      rw [encode, decode_announce_eq, Ragged]
      split <;> simp_all [eq_comm]

end Written

/-! ## Writing what was read -/

section Read

open Cursor

section Run

variable {d : Bytes}

theorem readHeader_eq_field : readHeader = field 8 fun bs place =>
    (int32At bs place, int32At bs (place + 4)) := by
  simp only [readHeader, Cursor.int32, field_bind_pure, field_bind_field]

theorem readHeader_run (h : 8 ≤ d.length) :
    readHeader d 0 = some ((int32At d 0, int32At d 4), 8) := by
  rw [readHeader_eq_field, field_of_le (by omega)]

theorem readFigures_eq_field : readFigures = field 12 fun bs place =>
    (int32At bs place, int32At bs (place + 4), int32At bs (place + 8)) := by
  simp only [readFigures, Cursor.int32, field_bind_pure, field_bind_field]

theorem readFigures_run (h : 20 ≤ d.length) :
    readFigures d 8 = some ((int32At d 8, int32At d 12, int32At d 16), 20) := by
  rw [readFigures_eq_field, field_of_le (by omega)]

end Run

/-- The `n` triples from `place` on. -/
def countsFrom (bs : Bytes) (place : Nat) : (n : Nat) → List ScrapeCounts
  | 0 => []
  | n + 1 => ⟨int32At bs place, int32At bs (place + 4), int32At bs (place + 8)⟩
      :: countsFrom bs (place + 12) n

theorem readCounts_of_le {bs : Bytes} {place : Nat} (n : Nat) (h : place + 12 * n ≤ bs.length) :
    readCounts n bs place = some (countsFrom bs place n, place + 12 * n) := by
  induction n generalizing place with
  | zero => rfl
  | succ n ih =>
      have hend : place + 12 + 12 * n = place + 12 * (n + 1) := by omega
      simp only [readCounts, Cursor.int32, bind_run]
      rw [field_of_le (by omega), Option.bind_some, field_of_le (by omega), Option.bind_some,
        field_of_le (by omega), Option.bind_some, ih (by omega), Option.bind_some, pure_run, hend]
      rfl

theorem encode_countsFrom {bs : Bytes} {place : Nat} (n : Nat) (h : place + 12 * n ≤ bs.length) :
    (countsFrom bs place n).flatMap ScrapeCounts.encode = slice bs place (12 * n) := by
  induction n generalizing place with
  | zero => rfl
  | succ n ih =>
      rw [countsFrom, List.flatMap_cons, ih (by omega), ScrapeCounts.encode,
        int32_int32At (by omega), int32_int32At (by omega), int32_int32At (by omega),
        slice_append_slice bs rfl, slice_append_slice bs rfl, slice_append_slice bs rfl]
      congr 1
      omega

/-- What may be heard in a datagram, with what it says of the octets. -/
inductive Heard (ipv4 : Bool) (d : Bytes) : Response → Prop
  | connect (whole : 16 ≤ d.length) (action : int32At d 0 = connectAction) :
      Heard ipv4 d (.connect (int32At d 4) (int64At d 8))
  | announce (whole : 20 ≤ d.length) (action : int32At d 0 = announceAction) (a : AnnounceReply)
      (fields : a = ⟨int32At d 4, int32At d 8, int32At d 12, int32At d 16, d.drop 20⟩) :
      Heard ipv4 d (if ipv4 then .announce4 a else .announce6 a)
  | scrape (n : Nat) (whole : d.length = 8 + 12 * n) (action : int32At d 0 = scrapeAction) :
      Heard ipv4 d (.scrape (int32At d 4) (countsFrom d 8 n))
  | error (whole : 8 ≤ d.length) (action : int32At d 0 = errorAction) :
      Heard ipv4 d (.error (int32At d 4) (Utf8.lossyString (d.drop 8)))

theorem heard_of_decode {ipv4 : Bool} {d : Bytes} {r : Response} (h : decode ipv4 d = .ok r) :
    Heard ipv4 d r := by
  by_cases hheader : d.length < 8
  · rw [decode, readHeader_eq_field, field_of_lt (by omega)] at h
    cases h
  have hwhole : 8 ≤ d.length := Nat.le_of_not_lt hheader
  rw [decode, readHeader_run hwhole] at h
  dsimp only at h
  split at h
  · next hconnect =>
    by_cases hid : 16 ≤ d.length
    · rw [Cursor.int64, field_of_le hid] at h
      cases h
      exact .connect hid hconnect
    · rw [Cursor.int64, field_of_lt (Nat.lt_of_not_le hid)] at h
      cases h
  split at h
  · next hannounce =>
    by_cases hfigures : 20 ≤ d.length
    · rw [readFigures_run hfigures] at h
      dsimp only at h
      split at h
      · cases h
      · cases h
        exact .announce hfigures hannounce _ rfl
    · rw [readFigures_eq_field, field_of_lt (Nat.lt_of_not_le hfigures)] at h
      cases h
  split at h
  · next hscrape =>
    have hlength : (d.drop 8).length = d.length - 8 := List.length_drop
    split at h
    · cases h
    · next htriples =>
      have hend : d.length = 8 + 12 * ((d.drop 8).length / 12) := by omega
      rw [readCounts_of_le _ (Nat.le_of_eq hend.symm)] at h
      cases h
      exact .scrape _ hend hscrape
  split at h
  · next herror =>
    cases h
    exact .error hwhole herror
  · cases h

end Read

theorem header_eq_take {d : Bytes} (h : 8 ≤ d.length) :
    int32 (int32At d 0) ++ int32 (int32At d 4) = d.take 8 := by
  rw [int32_int32At (by omega), int32_int32At h, slice_append_slice d rfl]
  rfl

/-- The octets that a reply read from a datagram stands for. -/
def heard (d : Bytes) : Response → Bytes
  | connect _ _ => d.take 16
  | error _ _ => d.take 8 ++ Utf8.ofString (Utf8.lossyString (d.drop 8))
  | _ => d

theorem encode_of_decode {ipv4 : Bool} {d : Bytes} {r : Response} (h : decode ipv4 d = .ok r) :
    r.encode = r.heard d := by
  cases heard_of_decode h with
  | connect whole action =>
      have hheader := header_eq_take (d := d) (by omega)
      rw [action] at hheader
      show int32 connectAction ++ int32 (int32At d 4) ++ int64 (int64At d 8) = d.take 16
      rw [hheader, int64_int64At whole]
      exact List.take_add.symm
  | announce whole action a fields =>
      have hencode : Response.encode (if ipv4 then .announce4 a else .announce6 a) = a.encode := by
        cases ipv4 <;> rfl
      have hheard : heard d (if ipv4 then .announce4 a else .announce6 a) = d := by
        cases ipv4 <;> rfl
      have hheader := header_eq_take (d := d) (by omega)
      rw [action] at hheader
      rw [hencode, hheard, announce_encode_eq, fields]
      dsimp only
      rw [hheader, int32_int32At (by omega), int32_int32At (by omega), int32_int32At (by omega),
        slice_append_slice d rfl, slice_append_slice d rfl, slice_append_drop d rfl,
        List.take_append_drop]
  | scrape n whole action =>
      have hheader := header_eq_take (d := d) (by omega)
      rw [action] at hheader
      show int32 scrapeAction ++ int32 (int32At d 4) ++
        (countsFrom d 8 n).flatMap ScrapeCounts.encode = d
      have hrest : slice d 8 (12 * n) = d.drop 8 := by
        rw [slice, List.take_of_length_le]
        rw [List.length_drop]
        omega
      rw [hheader, encode_countsFrom n (Nat.le_of_eq whole.symm), hrest, List.take_append_drop]
  | error whole action =>
      have hheader := header_eq_take whole
      rw [action] at hheader
      exact congrArg (· ++ _) hheader

/-- **Replies survive the wire.** A reply has the announced size, and a reader gets it back
just when the peers, if it has any, are whole and of the reader's family; where a peer is cut
short, reading fails for invalid data. And a reply that was read is written as the octets that
it was read from, but for what stands behind a connection id, which is left out, and for the
message of an error, which is written as it was read: as the same octets just when those were
a text. -/
theorem replies_survive_the_wire :
    (∀ r : Response, r.encode.length = r.size) ∧
      (∀ ipv4 (r : Response), decode ipv4 r.encode = .ok r ↔ r.WellFormed ipv4) ∧
      (∀ ipv4 (r : Response),
        (∃ e, decode ipv4 r.encode = .error e ∧ e.kind = .invalidData) ↔ r.Ragged ipv4) ∧
      (∀ ipv4 d r, decode ipv4 d = .ok r → r.encode = r.heard d) ∧
      ∀ ipv4 d t message, decode ipv4 d = .ok (.error t message) →
        ((error t message).encode = d ↔ Utf8.Valid (d.drop 8)) := by
  refine ⟨length_encode, decode_encode_iff, fun ipv4 r => ?_, fun _ _ _ => encode_of_decode, ?_⟩
  · constructor
    · rintro ⟨e, herror, -⟩
      exact ((decode_encode_eq_error_iff ipv4 r e).mp herror).2
    · intro hragged
      exact ⟨_, (decode_encode_eq_error_iff ipv4 r _).mpr ⟨rfl, hragged⟩, rfl⟩
  · intro ipv4 d t message h
    have hencode : (error t message).encode =
        d.take 8 ++ Utf8.ofString (Utf8.lossyString (d.drop 8)) := encode_of_decode h
    have hparts : d = d.take 8 ++ d.drop 8 := (List.take_append_drop 8 d).symm
    rw [hencode, ← Utf8.ofString_lossyString_iff]
    constructor
    · exact fun heq => List.append_cancel_left (heq.trans hparts)
    · exact fun heq => (congrArg (d.take 8 ++ ·) heq).trans hparts.symm

/-- An error whose message ends in an octet of no text. -/
def sampleError : Bytes := [0, 0, 0, 3, 0, 0, 0, 7, 0x62, 0xFF]

/-- The octet of no text is written again as the three of the replacement character. -/
theorem replies_survive_the_wire_bad_text :
    decode true sampleError = .ok (.error 7 "b\uFFFD") ∧
      (error 7 "b\uFFFD").encode = [0, 0, 0, 3, 0, 0, 0, 7, 0x62, 0xEF, 0xBF, 0xBD] ∧
      ¬Utf8.Valid (sampleError.drop 8) := by
  have htext : Utf8.lossyString [0x62, 0xFF] = "b\uFFFD" := by decide +kernel
  have hdecode : decode true sampleError = .ok (.error 7 "b\uFFFD") := by
    rw [← htext]
    rfl
  obtain ⟨-, -, -, hread, hvalid_iff⟩ := replies_survive_the_wire
  have hencode : (error 7 "b\uFFFD").encode = [0, 0, 0, 3, 0, 0, 0, 7, 0x62, 0xEF, 0xBF, 0xBD] :=
    (hread true sampleError _ hdecode).trans (by decide +kernel)
  refine ⟨hdecode, hencode, fun hvalid => ?_⟩
  have hsame := (hvalid_iff true sampleError _ _ hdecode).mpr hvalid
  rw [hencode] at hsame
  cases hsame

end Response

end PeerTracker.Udp
