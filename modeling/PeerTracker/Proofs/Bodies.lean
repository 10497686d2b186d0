import PeerTracker.Http.Handler
import PeerTracker.Proofs.Bencoding

/-!
# Bodies of web replies, key by key

A byte string is written behind its length, so that what follows a written string does
not run into it (`readString_encodeBytes`). A body that is a dictionary therefore tells
by its first key what it is: a refusal begins with the reason, no other body does.
-/

namespace PeerTracker

namespace Http

/-- The key that a refusal has its reason under. -/
def failureKey : Bytes := ascii "failure reason"

/-- A body that is a dictionary of nothing but a reason. -/
def IsFailure (body : Bytes) : Prop :=
  ∃ reason : Bytes, body = (Bencode.dict [(failureKey, .bytes reason)]).encode

/-- A dictionary with this key in front. -/
def Opens (key body : Bytes) : Prop :=
  ∃ rest, body = ascii "d" ++ Bencode.encodeBytes key ++ rest

theorem isFailure_failureBody (reason : String) : IsFailure (failureBody reason) :=
  ⟨ascii reason, rfl⟩

theorem opens_dict (key : Bytes) (value : Bencode) (entries : List (Bytes × Bencode)) :
    Opens key (Bencode.dict ((key, value) :: entries)).encode := by
  refine ⟨value.encode ++ Bencode.encodeEntries entries ++ ascii "e", ?_⟩
  simp [Bencode.encode, Bencode.encodeEntries]

theorem Opens.key_eq {key key' body : Bytes} (h : Opens key body) (h' : Opens key' body) :
    key = key' := by
  obtain ⟨rest, rfl⟩ := h
  obtain ⟨rest', heq⟩ := h'
  rw [List.append_assoc, List.append_assoc, List.append_cancel_left_eq] at heq
  exact (Bencode.encodeBytes_append_inj heq).1

/-- Whatever begins with another key is no refusal. -/
theorem Opens.not_isFailure {key body : Bytes} (h : Opens key body) (hkey : key ≠ failureKey) :
    ¬IsFailure body := by
  rintro ⟨reason, rfl⟩
  exact hkey (h.key_eq (opens_dict _ _ _))

theorem not_isFailure_nil : ¬IsFailure [] := by
  rintro ⟨reason, h⟩
  cases h

/-! ## Announce replies -/

/-- The numbers of a reply, in the order of their keys. -/
def sortedNumbers (r : AnnounceResult) : List (Bytes × Bencode) := [
  (ascii "complete", .int r.complete.toNat),
  (ascii "incomplete", .int r.incomplete.toNat),
  (ascii "interval", .int r.interval.toInt)]

/-- The entries of a compact reply, in the order of their keys. -/
def compactEntries (r : AnnounceResult) (v4 v6 : Bytes) : List (Bytes × Bencode) :=
  compactHint r ++ sortedNumbers r ++ [(ascii "peers", .bytes v4), (ascii "peers6", .bytes v6)]

theorem numbers_perm (r : AnnounceResult) : (numbers r).Perm (sortedNumbers r) :=
  (List.Perm.swap _ _ _).trans (.cons _ (.swap _ _ _))

/-- The keys of a reply, in their order. -/
def replyKeys : List Bytes := [hintKey, ascii "complete", ascii "incomplete", ascii "interval",
  ascii "peers", ascii "peers6"]

theorem increasing_of_replyKeys {es : List (Bytes × Bencode)}
    (h : (es.map Prod.fst).Sublist replyKeys) : Bencode.Increasing es := by
  have hkeys : replyKeys.Pairwise fun a b => Bytes.before a b = true := by decide
  exact .of_keys (hkeys.sublist h)

theorem increasing_compactEntries (r : AnnounceResult) (v4 v6 : Bytes) :
    Bencode.Increasing (compactEntries r v4 v6) := by
  apply increasing_of_replyKeys
  unfold compactEntries compactHint
  split
  · exact .refl replyKeys
  · exact List.tail_sublist replyKeys

theorem compactBody_eq (r : AnnounceResult) (v4 v6 : Bytes) :
    compactBody r v4 v6 = (Bencode.dict (compactEntries r v4 v6)).encode := by
  refine congrArg Bencode.encode (Bencode.dictOf_of_perm ?_ (increasing_compactEntries r v4 v6))
  refine List.perm_append_comm.trans ?_
  rw [compactEntries, List.append_assoc]
  exact ((numbers_perm r).append_right _).append_left _

theorem dictOf_numbers (r : AnnounceResult) :
    Bencode.dictOf (numbers r) = .dict (sortedNumbers r) := by
  have hkeys : ((sortedNumbers r).map Prod.fst).Sublist replyKeys :=
    (List.take_sublist 3 replyKeys.tail).trans (List.tail_sublist replyKeys)
  exact Bencode.dictOf_of_perm (numbers_perm r) (increasing_of_replyKeys hkeys)

/-- What stands in front of the numbers of a verbose reply. -/
def hintBytes (r : AnnounceResult) : Bytes :=
  match r.hint with
  | some (.verbose entry) => Bencode.encodeBytes hintKey ++ entry
  | _ => []

/-- Numbers are written in front of the peers, and a hint in front of the numbers. -/
theorem verboseBody_eq (r : AnnounceResult) (entries : List Bytes) :
    verboseBody r entries = ascii "d" ++ hintBytes r ++
      Bencode.encodeEntries (sortedNumbers r) ++ ascii "5:peersl" ++ entries.flatten ++
        ascii "ee" := by
  have hopened : spliceHint r (Bencode.dictOf (numbers r)).encode =
      ascii "d" ++ hintBytes r ++ Bencode.encodeEntries (sortedNumbers r) ++ ascii "e" := by
    rw [dictOf_numbers, Bencode.encode, spliceHint, hintBytes]
    rcases r.hint with _ | (b | entry) <;> simp [ascii]
  rw [verboseBody, hopened]
  congr 3
  exact List.dropLast_concat

/-- A reply to an announce begins with a hint or the first of its numbers. -/
theorem not_isFailure_announceBody (r : AnnounceResult) : ¬IsFailure (announceBody r) := by
  have hopens : Opens hintKey (announceBody r) ∨ Opens (ascii "complete") (announceBody r) := by
    unfold announceBody
    split
    · rw [compactBody_eq, compactEntries, compactHint]
      split
      · exact .inl (opens_dict _ _ _)
      · exact .inr (opens_dict _ _ _)
    · rw [verboseBody_eq, hintBytes]
      split
      · left
        simp only [Opens, List.append_assoc, List.append_cancel_left_eq, exists_eq']
      · right
        simp only [Opens, sortedNumbers, Bencode.encodeEntries, List.append_assoc,
          List.nil_append, List.append_cancel_left_eq, exists_eq']
  rcases hopens with hopens | hopens
  · exact hopens.not_isFailure (by decide)
  · exact hopens.not_isFailure (by decide)

theorem not_isFailure_scrapeBody (hashes : List Bytes) (entries : List ScrapeEntry) :
    ¬IsFailure (scrapeBody hashes entries) := by
  have hopens : Opens (ascii "files") (scrapeBody hashes entries) := opens_dict _ _ _
  exact hopens.not_isFailure (by decide)

end Http

end PeerTracker
