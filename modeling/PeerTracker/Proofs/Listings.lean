import PeerTracker.Announce
import PeerTracker.Proofs.Parking

/-!
# Lists of peers

A list of peers shows some records of a swarm, in either form. `Shows` says which: the
compact form holds them by family, so that their order among the families is lost, and
the verbose form one by one. What is listed is always the front of the swarm's table, and
as much of it as was wanted unless a buffer is too small (`Store.fill_spec`). The buffers
of the pools are never too small for what may be wanted.
-/

namespace PeerTracker

namespace Peer

/-- The size of a compact peer of each family. -/
def width (v4 : Bool) : Nat := if v4 then 6 else 18

/-- The compact forms of the records of one family, one after the other. -/
def compacts (v4 : Bool) (ps : List Peer) : Bytes :=
  (ps.filter fun p => p.ip.isV4 == v4).flatMap compact

theorem compacts_singleton (v4 : Bool) (p : Peer) :
    compacts v4 [p] = if p.ip.isV4 = v4 then p.compact else [] := by
  by_cases h : p.ip.isV4 = v4 <;> simp [compacts, h]

theorem compacts_cons (v4 : Bool) (p : Peer) (ps : List Peer) :
    compacts v4 (p :: ps) = compacts v4 [p] ++ compacts v4 ps := by
  rw [compacts, compacts, compacts, ← List.flatMap_append, ← List.filter_append]
  rfl

theorem length_compacts_singleton (v4 : Bool) (p : Peer) :
    (compacts v4 [p]).length = if p.ip.isV4 = v4 then width v4 else 0 := by
  rw [compacts_singleton]
  split
  · next h => rw [length_compact, ← h]; rfl
  · rfl

/-- Six octets for each IPv4 record, eighteen for each IPv6 record. -/
theorem length_compacts (v4 : Bool) (ps : List Peer) :
    (compacts v4 ps).length = width v4 * ps.countP fun p => p.ip.isV4 == v4 := by
  induction ps with
  | nil => rfl
  | cons p ps ih =>
      rw [compacts_cons, List.length_append, ih, length_compacts_singleton, List.countP_cons,
        Nat.mul_add, Nat.add_comm]
      by_cases h : p.ip.isV4 = v4 <;> simp [h]

end Peer

/-! ## What is shown -/

/-- The list shows these records with their ids, and nothing else. -/
def PeerListing.Shows (withIds : Bool) (es : List (PeerId × Peer)) : PeerListing → Prop
  | compact v4 v6 => v4.bytes = Peer.compacts true (es.map Prod.snd) ∧
      v6.bytes = Peer.compacts false (es.map Prod.snd)
  | verbose entries => entries = es.map fun e => (e.2.verbose e.1 withIds).encode

/-- The hint shows this record with its id. -/
def Hint.Shows (withIds : Bool) (e : PeerId × Peer) : Hint → Prop
  | compact b => b.bytes = e.2.compact
  | verbose entry => entry = (e.2.verbose e.1 withIds).encode

/-- As many peers are counted as are shown. -/
theorem PeerListing.Shows.count_eq {l : PeerListing} {withIds : Bool}
    {es : List (PeerId × Peer)} (h : l.Shows withIds es) : l.count = es.length := by
  cases l with
  | verbose entries =>
      rw [h]
      exact List.length_map _
  | compact v4 v6 =>
      obtain ⟨h4, h6⟩ := h
      have hfamilies : (es.map Prod.snd).length =
          (es.map Prod.snd).countP (fun p => p.ip.isV4 == true) +
            (es.map Prod.snd).countP (fun p => p.ip.isV4 == false) := by
        rw [List.length_eq_countP_add_countP (fun p : Peer => p.ip.isV4 == true)]
        congr 2
        funext p
        cases p.ip.isV4 <;> rfl
      have hcount4 := Nat.mul_div_cancel_left
        ((es.map Prod.snd).countP fun p => p.ip.isV4 == true) (n := 6) (by decide)
      have hcount6 := Nat.mul_div_cancel_left
        ((es.map Prod.snd).countP fun p => p.ip.isV4 == false) (n := 18) (by decide)
      rw [count, h4, h6, Peer.length_compacts, Peer.length_compacts]
      rw [List.length_map] at hfamilies
      show 6 * _ / 6 + 18 * _ / 18 = _
      rw [hcount4, hcount6, hfamilies]

/-! ## Filling buffers -/

namespace Buffer

/-- The buffer of one family, offered a peer of either. -/
def offer (v4 : Bool) (p : Peer) (b : Buffer) : Buffer :=
  if p.ip.isV4 = v4 then b.append p.compact else b

/-- There is room for `n` peers of a family. -/
def Room (v4 : Bool) (n : Nat) (b : Buffer) : Prop :=
  b.bytes.length + Peer.width v4 * n ≤ b.capacity

theorem bytes_offer (v4 : Bool) (p : Peer) (b : Buffer) :
    (b.offer v4 p).bytes = b.bytes ++ Peer.compacts v4 [p] := by
  rw [offer, Peer.compacts_singleton]
  split
  · rfl
  · exact (List.append_nil _).symm

theorem Room.offer {v4 : Bool} {n : Nat} {b : Buffer} (h : b.Room v4 (n + 1)) (p : Peer) :
    (b.offer v4 p).Room v4 n := by
  have hcapacity : b.capacity ≤ (b.offer v4 p).capacity := by
    unfold Buffer.offer
    split
    · exact Nat.le_max_left _ _
    · exact Nat.le_refl _
  have hlength : (b.offer v4 p).bytes.length ≤ b.bytes.length + Peer.width v4 := by
    rw [bytes_offer, List.length_append, Peer.length_compacts_singleton]
    split <;> omega
  unfold Room at *
  rw [Nat.mul_succ] at h
  omega

theorem Room.fits {v4 : Bool} {n : Nat} {b : Buffer} (h : b.Room v4 (n + 1)) {p : Peer}
    (hv4 : p.ip.isV4 = v4) : b.fits p.compactSize = true := by
  have hsize : p.compactSize = Peer.width v4 := hv4 ▸ rfl
  unfold Room at h
  rw [Nat.mul_succ] at h
  rw [Buffer.fits, hsize, decide_eq_true_eq]
  omega

/-- With room in both, a peer fits whichever family it is of. -/
theorem fits_of_room {n : Nat} {b4 b6 : Buffer} (h4 : b4.Room true (n + 1))
    (h6 : b6.Room false (n + 1)) (p : Peer) :
    (if p.ip.isV4 then b4 else b6).fits p.compactSize = true := by
  cases hv4 : p.ip.isV4 with
  | true => exact h4.fits hv4
  | false => exact h6.fits hv4

end Buffer

namespace Store

/-- The next peer is offered to both buffers, unless that of its family is full. -/
theorem fill_succ_cons (n : Nat) (p : Peer) (ps : List Peer) (b4 b6 : Buffer) :
    fill (n + 1) (p :: ps) b4 b6 =
      if (if p.ip.isV4 then b4 else b6).fits p.compactSize then
        let filled := fill n ps (b4.offer true p) (b6.offer false p)
        (filled.1 + 1, filled.2)
      else (0, b4, b6) := by
  cases h : p.ip.isV4 <;> simp [fill, Buffer.offer, h]

/-- Filling buffers stops at some peer, which the count tells, and not before it has to if
there is room for all that are wanted, whichever family they are of. -/
theorem fill_spec (n : Nat) (ps : List Peer) (b4 b6 : Buffer) :
    let filled := fill n ps b4 b6
    filled.1 ≤ min n ps.length ∧
      filled.2.1.bytes = b4.bytes ++ Peer.compacts true (ps.take filled.1) ∧
      filled.2.2.bytes = b6.bytes ++ Peer.compacts false (ps.take filled.1) ∧
      (b4.Room true n → b6.Room false n → filled.1 = min n ps.length) := by
  have hnone : ∀ (ps : List Peer) v4 (b : Buffer),
      b.bytes = b.bytes ++ Peer.compacts v4 (ps.take 0) := by
    intro ps v4 b
    exact (List.append_nil _).symm
  -- the rest of the run starts from other buffers, hence for all of them
  induction ps generalizing n b4 b6 with
  | nil =>
      have hfill : fill n [] b4 b6 = (0, b4, b6) := by cases n <;> rfl
      rw [hfill]
      exact ⟨Nat.zero_le _, hnone [] true b4, hnone [] false b6, fun _ _ => (Nat.min_zero n).symm⟩
  | cons p ps ih =>
      cases n with
      | zero =>
          exact ⟨Nat.zero_le _, hnone _ true b4, hnone _ false b6, fun _ _ => (Nat.zero_min _).symm⟩
      | succ n =>
          have hmin : min (n + 1) (p :: ps).length = min n ps.length + 1 := by
            rw [List.length_cons]
            omega
          rw [fill_succ_cons]
          by_cases hfits : (if p.ip.isV4 then b4 else b6).fits p.compactSize = true
          · rw [if_pos hfits]
            obtain ⟨hcount, h4, h6, hroom⟩ := ih n (b4.offer true p) (b6.offer false p)
            have hcons : ∀ v4 m, Peer.compacts v4 ((p :: ps).take (m + 1)) =
                Peer.compacts v4 [p] ++ Peer.compacts v4 (ps.take m) :=
              fun v4 _ => Peer.compacts_cons v4 p _
            refine ⟨?_, ?_, ?_, ?_⟩
            · rw [hmin]
              exact Nat.succ_le_succ hcount
            · rw [h4, hcons, Buffer.bytes_offer, List.append_assoc]
            · rw [h6, hcons, Buffer.bytes_offer, List.append_assoc]
            · intro hroom4 hroom6
              rw [hmin]
              exact congrArg Nat.succ (hroom (hroom4.offer p) (hroom6.offer p))
          · rw [if_neg hfits]
            refine ⟨Nat.zero_le _, hnone _ true b4, hnone _ false b6, ?_⟩
            intro hroom4 hroom6
            exact absurd (Buffer.fits_of_room hroom4 hroom6 p) hfits

/-- The compact list is the front of the swarm's table, by family, and all of it that is wanted
if the buffers are large enough. -/
theorem peerListBytes_spec (s : State) (hash : InfoHash) (wanted : Nat) (b4 b6 : Buffer) :
    let out := peerListBytes s hash wanted b4 b6
    out.1 ≤ min wanted (listed s hash).length ∧
      out.2.1.bytes = Peer.compacts true (((listed s hash).take out.1).map Prod.snd) ∧
      out.2.2.bytes = Peer.compacts false (((listed s hash).take out.1).map Prod.snd) ∧
      (6 * wanted ≤ b4.capacity → 18 * wanted ≤ b6.capacity →
        out.1 = min wanted (listed s hash).length) := by
  intro out
  obtain ⟨hcount, h4, h6, hroom⟩ :=
    fill_spec wanted ((listed s hash).map Prod.snd) b4.clear b6.clear
  rw [List.length_map] at hcount hroom
  rw [List.map_take]
  refine ⟨hcount, h4, h6, fun hcapacity4 hcapacity6 => hroom ?_ ?_⟩
  · exact (Nat.zero_add _).trans_le hcapacity4
  · exact (Nat.zero_add _).trans_le hcapacity6

theorem mem_of_pickProvider {s : State} {hash : InfoHash} {e : PeerId × Peer}
    (h : (pickProvider s hash).1 = some e) :
    ∃ w, s.swarm? hash = some w ∧ e ∈ w.providers.entries := by
  unfold pickProvider at h
  split at h
  · cases h
  · next w hw =>
      split at h
      · cases h
      · exact ⟨w, hw, List.mem_of_getElem? h⟩

theorem pickProvider_pools (s : State) (hash : InfoHash) :
    (pickProvider s hash).2.pools = s.pools := by
  unfold pickProvider
  split
  · rfl
  · split <;> rfl

end Store

/-! ## Lists and hints of replies -/

/-- The list is in the compact form. -/
def PeerListing.isCompact : PeerListing → Bool
  | compact _ _ => true
  | verbose _ => false

def Hint.isCompact : Hint → Bool
  | compact _ => true
  | verbose _ => false

namespace Announce

variable (q : Announcement) (s : State) (hash : InfoHash)

/-- A list shows the front of the swarm's table, in the form that was asked for. With the
buffers of the pools it shows all that are wanted, as far as the swarm has them. -/
theorem listing_spec (wanted : Nat) :
    (listing q s hash wanted).1.isCompact = q.compact ∧
      ∃ m ≤ min wanted (Store.listed s hash).length,
        (listing q s hash wanted).1.Shows (!q.noPeerId) ((Store.listed s hash).take m) ∧
          ∀ limit, s.pools.Restored limit → wanted ≤ limit →
            m = min wanted (Store.listed s hash).length := by
  cases hcompact : q.compact with
  | false =>
      have hlisting : (listing q s hash wanted).1 =
          .verbose (Store.peerList s hash wanted (!q.noPeerId)) := by simp [listing, hcompact]
      rw [hlisting]
      refine ⟨rfl, _, Nat.le_refl _, ?_, fun _ _ _ => rfl⟩
      show Store.peerList s hash wanted (!q.noPeerId) = _
      rw [Store.peerList, List.take_eq_take_min]
  | true =>
      have hlisting : (listing q s hash wanted).1 =
          .compact
            (Store.peerListBytes s hash wanted s.pools.getList4.1 s.pools.getList4.2.getList6.1).2.1
            (Store.peerListBytes s hash wanted s.pools.getList4.1
              s.pools.getList4.2.getList6.1).2.2 := by
        simp [listing, hcompact, Store.peerListBytes, Store.listed, State.swarm?]
      obtain ⟨hm, h4, h6, hroom⟩ := Store.peerListBytes_spec s hash wanted s.pools.getList4.1
        s.pools.getList4.2.getList6.1
      rw [hlisting]
      refine ⟨rfl, _, hm, ⟨h4, h6⟩, ?_⟩
      intro limit hrestored hwanted
      obtain ⟨hb4, hpools⟩ := hrestored.getList4
      obtain ⟨hb6, -⟩ := hpools.getList6
      apply hroom
      · rw [hb4]
        exact Nat.mul_le_mul_left 6 hwanted
      · rw [hb6]
        exact Nat.mul_le_mul_left 18 hwanted

/-- A hint shows one of the swarm's providers. -/
theorem hint_spec {limit : Nat} (hrestored : s.pools.Restored limit) (u : Update) {h : Hint}
    (hhint : (hint q s hash u).1 = some h) :
    ∃ w, s.swarm? hash = some w ∧ ∃ e ∈ w.providers.entries, h.Shows (!q.noPeerId) e := by
  unfold hint at hhint
  split at hhint
  · cases hhint
  · unfold Store.baselineProvider at hhint
    cases hpick : Store.pickProvider s hash with
    | mk picked s₁ =>
        have hpools : s₁.pools = s.pools := by rw [← Store.pickProvider_pools s hash, hpick]
        rw [hpick] at hhint
        cases picked with
        | none => cases hhint
        | some e =>
            obtain ⟨w, hw, he⟩ := Store.mem_of_pickProvider (e := e) (by rw [hpick])
            refine ⟨w, hw, e, he, ?_⟩
            cases hcompact : q.compact with
            | false =>
                simp only [hcompact, Bool.false_eq_true, if_false, Option.some.injEq] at hhint
                rw [← hhint]
                rfl
            | true =>
                simp only [hcompact, if_true, Option.some.injEq] at hhint
                rw [← hhint]
                show s₁.pools.getHint.1.bytes ++ e.2.compact = e.2.compact
                rw [hpools, hrestored.getHint.1]
                rfl

end Announce

end PeerTracker
