import PeerTracker.Proofs.Bodies
import PeerTracker.Proofs.Demands

/-!
# Announce bodies as single dictionaries

What is verbose in a reply comes as bytes: a peer, or a hint, in the canonical form of a
dictionary. The numbers of the reply are encoded as a dictionary of their own, which is then
opened: a hint goes in front of its entries, the list of peers behind them. That this is the
canonical form of one dictionary rests on two things. The key of a hint is less than those
of the numbers, and `peers` greater (`increasing_replyEntries`), and what is put in stands
for a whole value (`encode_valueOf`).
-/

namespace PeerTracker

namespace Bencode

/-- The canonical form of a dictionary. -/
def IsDictionary (bs : Bytes) : Prop := ∃ entries, decode bs = some (.dict entries)

/-- The value in canonical form in `bs`; octets that are none stand for themselves. -/
def valueOf (bs : Bytes) : Bencode := (decode bs).getD (.bytes bs)

theorem IsDictionary.of_canonical {entries : List (Bytes × Bencode)}
    (h : (dict entries).Canonical) : IsDictionary (dict entries).encode :=
  ⟨entries, decode_eq_some_iff.mpr ⟨h, rfl⟩⟩

section Value

variable {bs : Bytes} (h : IsDictionary bs)
include h

theorem canonical_valueOf : (valueOf bs).Canonical := by
  obtain ⟨entries, hdecode⟩ := h
  rw [valueOf, hdecode]
  exact (decode_eq_some_iff.mp hdecode).1

theorem encode_valueOf : (valueOf bs).encode = bs := by
  obtain ⟨entries, hdecode⟩ := h
  rw [valueOf, hdecode]
  exact (decode_eq_some_iff.mp hdecode).2.symm

end Value

theorem encodeItems_valueOf {entries : List Bytes} (h : ∀ entry ∈ entries, IsDictionary entry) :
    encodeItems (entries.map valueOf) = entries.flatten := by
  induction entries with
  | nil => rfl
  | cons entry entries ih =>
      obtain ⟨hentry, hentries⟩ := List.forall_mem_cons.mp h
      rw [List.map_cons, encodeItems, encode_valueOf hentry, ih hentries, List.flatten_cons]

end Bencode

/-- What a reply has encoded already, its verbose peers and its verbose hint, are dictionaries
in canonical form. -/
structure AnnounceResult.Prepared (r : AnnounceResult) : Prop where
  peers : ∀ entries, r.peers = .verbose entries → ∀ entry ∈ entries, Bencode.IsDictionary entry
  hint : ∀ entry, r.hint = some (.verbose entry) → Bencode.IsDictionary entry

/-! ## What the store prepares -/

theorem Peer.canonical_verbose (p : Peer) (id : PeerId) (withId : Bool) :
    (p.verbose id withId).Canonical := by
  have hkeys : [ascii "ip", ascii "peer id", ascii "port"].Pairwise
      fun a b => Bytes.before a b = true := by decide
  have hunnamed : [ascii "ip", ascii "port"].Pairwise fun a b => Bytes.before a b = true := by
    decide
  cases withId with
  | true =>
      refine .dict (.of_keys hkeys) ?_
      simp [Bencode.text, Bencode.Canonical.bytes, Bencode.Canonical.int]
  | false =>
      refine .dict (.of_keys hunnamed) ?_
      simp [Bencode.text, Bencode.Canonical.bytes, Bencode.Canonical.int]

theorem Peer.isDictionary_verbose (p : Peer) (id : PeerId) (withId : Bool) :
    Bencode.IsDictionary (p.verbose id withId).encode :=
  .of_canonical (p.canonical_verbose id withId)

namespace Announce

variable {q : Announcement} {s : State} {hash : InfoHash}

theorem isDictionary_listing {wanted : Nat} {entries : List Bytes}
    (h : (listing q s hash wanted).1 = .verbose entries) :
    ∀ entry ∈ entries, Bencode.IsDictionary entry := by
  unfold listing at h
  split at h
  · cases h
  · obtain rfl := PeerListing.verbose.inj h
    rintro entry hentry
    obtain ⟨e, -, rfl⟩ := List.mem_map.mp hentry
    exact e.2.isDictionary_verbose e.1 _

theorem isDictionary_hint {u : Update} {entry : Bytes}
    (h : (hint q s hash u).1 = some (.verbose entry)) : Bencode.IsDictionary entry := by
  unfold hint Store.baselineProvider at h
  split at h
  · cases h
  · split at h
    · cases h
    · next id p _ _ =>
      split at h
      · cases h
      · obtain rfl := Hint.verbose.inj (Option.some.inj h)
        exact p.isDictionary_verbose id _

/-- Whatever a reply shows in verbose form, the store has encoded it. -/
theorem prepared_of_announced {r : Rules} {now : Int64} {reply : AnnounceResult}
    (h : (announce r q now s).1 = .ok (.announced reply)) : reply.Prepared := by
  obtain ⟨hash, id, u, wanted, hintent⟩ := intent_of_announced h
  rw [announce_of_join hintent] at h
  obtain rfl := AnnounceOutcome.announced.inj (Except.ok.inj h)
  exact ⟨fun _ => isDictionary_listing, fun _ => isDictionary_hint⟩

end Announce

namespace Http

/-! ## A reply as one dictionary -/

/-- A hint that goes with verbose peers. -/
def verboseHint (r : AnnounceResult) : List (Bytes × Bencode) :=
  match r.hint with
  | some (.verbose entry) => [(hintKey, Bencode.valueOf entry)]
  | _ => []

/-- The entries of a verbose reply, in the order of their keys. -/
def verboseEntries (r : AnnounceResult) (entries : List Bytes) : List (Bytes × Bencode) :=
  verboseHint r ++ sortedNumbers r ++ [(ascii "peers", .list (entries.map Bencode.valueOf))]

/-- All that a reply says, in the order of the keys. -/
def replyEntries (r : AnnounceResult) : List (Bytes × Bencode) :=
  match r.peers with
  | .compact v4 v6 => compactEntries r v4.bytes v6.bytes
  | .verbose entries => verboseEntries r entries

theorem increasing_verboseEntries (r : AnnounceResult) (entries : List Bytes) :
    Bencode.Increasing (verboseEntries r entries) := by
  have hkeys : (replyKeys.take 5).Sublist replyKeys := List.take_sublist 5 replyKeys
  apply increasing_of_replyKeys
  unfold verboseEntries verboseHint
  split
  · exact hkeys
  · exact (List.tail_sublist _).trans hkeys

theorem increasing_replyEntries (r : AnnounceResult) : Bencode.Increasing (replyEntries r) := by
  unfold replyEntries
  split
  · exact increasing_compactEntries r _ _
  · exact increasing_verboseEntries r _

theorem canonical_sortedNumbers (r : AnnounceResult) : ∀ e ∈ sortedNumbers r, e.2.Canonical := by
  simp [sortedNumbers, Bencode.Canonical.int]

theorem canonical_compactEntries (r : AnnounceResult) (v4 v6 : Bytes) :
    ∀ e ∈ compactEntries r v4 v6, e.2.Canonical := by
  have hhint : ∀ e ∈ compactHint r, e.2.Canonical := by
    unfold compactHint
    split <;> simp [Bencode.Canonical.bytes]
  simp only [compactEntries, List.forall_mem_append]
  exact ⟨⟨hhint, canonical_sortedNumbers r⟩, by simp [Bencode.Canonical.bytes]⟩

section Prepared

variable {r : AnnounceResult} (h : r.Prepared)
include h

theorem canonical_verboseEntries {entries : List Bytes} (hpeers : r.peers = .verbose entries) :
    ∀ e ∈ verboseEntries r entries, e.2.Canonical := by
  have hhint : ∀ e ∈ verboseHint r, e.2.Canonical := by
    unfold verboseHint
    split
    · next entry hentry =>
      simp [Bencode.canonical_valueOf (h.hint entry hentry)]
    · simp
  have hlist : (Bencode.list (entries.map Bencode.valueOf)).Canonical := by
    refine .list fun v hv => ?_
    obtain ⟨entry, hentry, rfl⟩ := List.mem_map.mp hv
    exact Bencode.canonical_valueOf (h.peers entries hpeers entry hentry)
  simp only [verboseEntries, List.forall_mem_append]
  exact ⟨⟨hhint, canonical_sortedNumbers r⟩, by simp [hlist]⟩

theorem canonical_replyEntries : (Bencode.dict (replyEntries r)).Canonical := by
  refine .dict (increasing_replyEntries r) ?_
  unfold replyEntries
  split
  · exact canonical_compactEntries r _ _
  · next hpeers => exact canonical_verboseEntries h hpeers

theorem encodeEntries_verboseHint : Bencode.encodeEntries (verboseHint r) = hintBytes r := by
  cases hhint : r.hint with
  | none => simp [verboseHint, hintBytes, hhint, Bencode.encodeEntries]
  | some hint =>
      cases hint with
      | compact b => simp [verboseHint, hintBytes, hhint, Bencode.encodeEntries]
      | verbose entry =>
          simp [verboseHint, hintBytes, hhint, Bencode.encodeEntries,
            Bencode.encode_valueOf (h.hint entry hhint)]

/-- Splicing gives what encoding the whole dictionary gives. -/
theorem verboseBody_eq_encode {entries : List Bytes} (hpeers : r.peers = .verbose entries) :
    verboseBody r entries = (Bencode.dict (verboseEntries r entries)).encode := by
  have hkey : Bencode.encodeBytes (ascii "peers") = ascii "5:peers" := by decide +kernel
  have hlist : Bencode.encodeEntries [(ascii "peers", .list (entries.map Bencode.valueOf))] =
      ascii "5:peersl" ++ entries.flatten ++ ascii "e" := by
    rw [Bencode.encodeEntries, Bencode.encodeEntries, Bencode.encode, hkey,
      Bencode.encodeItems_valueOf (h.peers entries hpeers)]
    simp [ascii]
  have hend : ascii "ee" = ascii "e" ++ ascii "e" := rfl
  rw [verboseBody_eq, Bencode.encode, verboseEntries, Bencode.encodeEntries_append,
    Bencode.encodeEntries_append, encodeEntries_verboseHint h, hlist, hend]
  simp only [List.append_assoc]

theorem announceBody_eq_encode :
    announceBody r = (Bencode.dict (replyEntries r)).encode := by
  cases hpeers : r.peers with
  | compact v4 v6 =>
      rw [announceBody, replyEntries, hpeers]
      exact compactBody_eq r v4.bytes v6.bytes
  | verbose entries =>
      rw [announceBody, replyEntries, hpeers]
      exact verboseBody_eq_encode h hpeers

end Prepared

/-- A hint is told if it is in the form of the peers. -/
theorem hintKey_mem_replyEntries (r : AnnounceResult) :
    hintKey ∈ (replyEntries r).map Prod.fst ↔
      ∃ hint, r.hint = some hint ∧ hint.isCompact = r.peers.isCompact := by
  have hother : hintKey ∉ replyKeys.tail := by decide
  simp only [replyKeys, List.tail_cons, List.mem_cons, List.not_mem_nil, or_false,
    not_or] at hother
  unfold replyEntries
  cases hpeers : r.peers <;> rcases hhint : r.hint with _ | (b | entry) <;>
    simp [compactEntries, compactHint, verboseEntries, verboseHint, hhint, sortedNumbers, hother,
      Hint.isCompact, PeerListing.isCompact]

/-- **The body of an announce reply is one dictionary in canonical form.** Let the verbose
peers and the verbose hint of a reply, if it has any, be dictionaries in canonical form, as
they are in every reply to an announce. Then the body is the encoding of a dictionary whose
keys strictly increase, and of nothing else: of `complete`, `incomplete` and `interval`, of
`peers` and `peers6` as byte strings or of `peers` as the list of those dictionaries, and of
`baseline provider` with the hint just if it is in the form of the peers. To encode this
dictionary at once, its entries inserted in any order, gives the same octets. -/
theorem announce_bodies_are_canonical :
    (∀ (rules : Rules) (q : Announcement) (now : Int64) (s : State) (r : AnnounceResult),
      (announce rules q now s).1 = .ok (.announced r) → r.Prepared) ∧
    ∀ r : AnnounceResult, r.Prepared →
      (Bencode.dict (replyEntries r)).Canonical ∧
      announceBody r = (Bencode.dict (replyEntries r)).encode ∧
      Bencode.decode (announceBody r) = some (.dict (replyEntries r)) ∧
      (∀ entries, entries.Perm (replyEntries r) →
        announceBody r = (Bencode.dictOf entries).encode) ∧
      (hintKey ∈ (replyEntries r).map Prod.fst ↔
        ∃ hint, r.hint = some hint ∧ hint.isCompact = r.peers.isCompact) := by
  refine ⟨fun _ _ _ _ _ => Announce.prepared_of_announced, fun r h => ?_⟩
  have hcanonical := canonical_replyEntries h
  have hbody := announceBody_eq_encode h
  refine ⟨hcanonical, hbody, Bencode.decode_eq_some_iff.mpr ⟨hcanonical, hbody⟩, ?_,
    hintKey_mem_replyEntries r⟩
  intro entries hperm
  rw [hbody, Bencode.dictOf_of_perm hperm (increasing_replyEntries r)]

/-- A reply with a peer and a hint, its interval below zero. -/
def sampleReply : AnnounceResult where
  interval := -5
  complete := 1
  incomplete := 0
  peers := .verbose [ascii "d2:ip8:10.0.0.14:porti1ee"]
  hint := some (.verbose (ascii "d2:ip7:1.2.3.44:porti80ee"))
  badActor := false

/-- The first peer of a swarm is told of itself in canonical form, and a reply with a peer and
a hint is one dictionary. -/
theorem announce_bodies_are_canonical_spliced :
    (∃ r entry, (announce (.ofSettings {} []) { sampleAnnouncement .zero with compact := false } 1
        (.ofSettings {} (.ofList []))).1 = .ok (.announced r) ∧
      r.peers = .verbose [entry] ∧ r.Prepared) ∧
    sampleReply.Prepared ∧
      announceBody sampleReply = (Bencode.dict (replyEntries sampleReply)).encode ∧
      (Bencode.dict (replyEntries sampleReply)).encode =
        ascii "d17:baseline providerd2:ip7:1.2.3.44:porti80ee" ++
          ascii "8:completei1e10:incompletei0e8:intervali-5e" ++
            ascii "5:peersld2:ip8:10.0.0.14:porti1eeee" := by
  have hpeer : ascii "d2:ip8:10.0.0.14:porti1ee" =
      ({ Peer.blank with ip := .v4 ⟨10, 0, 0, 1⟩, port := 1 }.verbose default false).encode := by
    decide +kernel
  have hhint : ascii "d2:ip7:1.2.3.44:porti80ee" =
      ({ Peer.blank with ip := .v4 ⟨1, 2, 3, 4⟩, port := 80 }.verbose default false).encode := by
    decide +kernel
  have hprepared : sampleReply.Prepared := by
    constructor
    · rintro entries ⟨⟩ entry hentry
      rw [List.mem_singleton.mp hentry, hpeer]
      exact Peer.isDictionary_verbose _ _ _
    · rintro entry ⟨⟩
      rw [hhint]
      exact Peer.isDictionary_verbose _ _ _
  obtain ⟨hannounced, hspliced⟩ := announce_bodies_are_canonical
  have hintent : Announce.intent (.ofSettings {} [])
      { sampleAnnouncement .zero with compact := false } 1 = .ok (.join .zero .zero _ 50) :=
    Announce.intent_eq_join_iff.mpr ⟨rfl, rfl, by decide, 6881, by decide, rfl, rfl⟩
  have hreply := congrArg Prod.fst
    (announce_of_join (s := .ofSettings {} (.ofList [])) hintent)
  exact ⟨⟨_, _, hreply, rfl, hannounced _ _ _ _ _ hreply⟩, hprepared,
    (hspliced sampleReply hprepared).2.1, by decide +kernel⟩

end Http

end PeerTracker
