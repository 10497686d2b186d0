import Mathlib.Algebra.Group.Int.Defs
import Mathlib.Algebra.GroupWithZero.Nat
import PeerTracker.Udp.ConnectionId

/-!
# What a connection id vouches for

An id is eight octets of a digest, so two ids can be equal by accident. Short of that,
`Collide`, an id is good for the host and the port it was issued to, whichever form the
address of the host has, and from its own time bucket to the end of the next. The reason
is that what is digested tells buckets, hosts and ports apart (`claim_inj`): the length
shows the family of the address, and then every field has its place.
-/

namespace PeerTracker.Udp

/-- The same host, in either form of its address, and the same port. -/
def SameOrigin (a b : Net.Endpoint) : Prop :=
  a.ip.canonical = b.ip.canonical ∧ a.port = b.port

/-- Two different messages whose digests begin with the same eight octets. -/
def Collide (m n : Bytes) : Prop :=
  m ≠ n ∧ (Sha1.digest m).take 8 = (Sha1.digest n).take 8

namespace ConnectionKey

variable {a b : Net.Endpoint} {m n : Nat}

/-! ## What is digested -/

theorem claim_inj (hm : m < 2 ^ 64) (hn : n < 2 ^ 64) (h : claim a m = claim b n) :
    SameOrigin a b ∧ m = n := by
  unfold claim at h
  -- the port stands at the end and the bucket in front, whatever is between them
  obtain ⟨hfront, hport⟩ := List.append_inj' h (by simp)
  obtain ⟨hbucket, hip⟩ := List.append_inj hfront (by simp)
  refine ⟨⟨Net.IpAddr.octets_inj hip, ?_⟩, BigEndian.encode_inj (w := 8) hm hn hbucket⟩
  exact UInt16.toNat_inj.mp (BigEndian.encode_inj (w := 2) a.port.toNat_lt b.port.toNat_lt hport)

theorem claim_congr (h : SameOrigin a b) (n : Nat) : claim a n = claim b n := by
  rw [claim, claim, h.1, h.2]

/-- What is digested for an endpoint and a time bucket. -/
def message (key : ConnectionKey) (remote : Net.Endpoint) (bucket : Nat) : Bytes :=
  key.secret ++ claim remote bucket

variable (key : ConnectionKey)

theorem length_digest (bs : Bytes) : (Sha1.digest bs).length = 20 := by
  simp [Sha1.digest]

/-- Ids are equal when the octets they are made of are. -/
theorem derive_eq_iff : key.derive a m = key.derive b n ↔
    (Sha1.digest (key.message a m)).take 8 = (Sha1.digest (key.message b n)).take 8 := by
  constructor
  · intro h
    have hlength : ∀ bs, ((Sha1.digest bs).take 8).length = 8 := by
      intro bs
      rw [List.length_take, length_digest]
      rfl
    have hlt : ∀ bs, BigEndian.decode ((Sha1.digest bs).take 8) < UInt64.size := by
      intro bs
      have hspan := BigEndian.decode_lt ((Sha1.digest bs).take 8)
      rw [hlength] at hspan
      exact hspan
    have hwords := congrArg (fun i : Int64 => i.toUInt64.toNat) h
    simp only [derive, UInt64.toUInt64_toInt64] at hwords
    rw [UInt64.toNat_ofNat_of_lt' (hlt _), UInt64.toNat_ofNat_of_lt' (hlt _)] at hwords
    exact BigEndian.decode_inj ((hlength _).trans (hlength _).symm) hwords
  · intro h
    show (UInt64.ofNat (BigEndian.decode ((Sha1.digest (key.message a m)).take 8))).toInt64 = _
    rw [h]
    rfl

/-- Equal ids are of one origin and one bucket, or equal by accident. -/
theorem sameOrigin_or_collide (hm : m < 2 ^ 64) (hn : n < 2 ^ 64)
    (h : key.derive a m = key.derive b n) :
    SameOrigin a b ∧ m = n ∨ Collide (key.message a m) (key.message b n) := by
  by_cases hsame : key.message a m = key.message b n
  · exact Or.inl (claim_inj hm hn (List.append_cancel_left hsame))
  · exact Or.inr ⟨hsame, (derive_eq_iff key).mp h⟩

/-! ## Time buckets -/

variable {s t : Int64}

theorem bucket_lt (t : Int64) : key.bucket t < 2 ^ 64 := by
  have hlt := t.toInt_lt
  have hdiv := Nat.div_le_self t.toInt.toNat key.lifetime
  unfold bucket
  omega

/-- Within one lifetime at most one bucket begins. -/
theorem bucket_of_le_add (hst : s.toInt ≤ t.toInt)
    (hts : t.toInt ≤ max s.toInt 0 + key.lifetime) :
    key.bucket s = key.bucket t ∨ key.bucket s + 1 = key.bucket t := by
  have hpos := key.lifetime_pos
  have hlow : key.bucket s ≤ key.bucket t := Nat.div_le_div_right (by omega)
  have hhigh : key.bucket t ≤ key.bucket s + 1 := by
    have hle : t.toInt.toNat ≤ s.toInt.toNat + key.lifetime := by omega
    calc key.bucket t ≤ (s.toInt.toNat + key.lifetime) / key.lifetime := Nat.div_le_div_right hle
      _ = key.bucket s + 1 := Nat.add_div_right _ hpos
  omega

/-- Within two lifetimes at least two buckets begin. -/
theorem bucket_of_add_le (hs : 0 ≤ s.toInt) (hst : s.toInt + 2 * key.lifetime ≤ t.toInt) :
    key.bucket s + 2 ≤ key.bucket t := by
  have hpos := key.lifetime_pos
  have hle : s.toInt.toNat + key.lifetime + key.lifetime ≤ t.toInt.toNat := by omega
  calc key.bucket s + 2 = (s.toInt.toNat + key.lifetime + key.lifetime) / key.lifetime := by
        rw [Nat.add_div_right _ hpos, Nat.add_div_right _ hpos]
        rfl
    _ ≤ key.bucket t := Nat.div_le_div_right hle

/-! ## Verifying -/

/-- An id passes as that of the current bucket or of the one before, if there is one. -/
theorem verify_iff (id : Int64) (remote : Net.Endpoint) (now : Int64) :
    key.verify id remote now = true ↔
      ∃ n, (n = key.bucket now ∨ n + 1 = key.bucket now) ∧ id = key.derive remote n := by
  simp only [verify, Bool.or_eq_true, Bool.and_eq_true, beq_iff_eq, decide_eq_true_eq]
  constructor
  · rintro (hid | ⟨hpos, hid⟩)
    · exact ⟨_, Or.inl rfl, hid⟩
    · exact ⟨_, Or.inr (Nat.sub_add_cancel hpos), hid⟩
  · rintro ⟨n, rfl | hn, hid⟩
    · exact Or.inl hid
    · refine Or.inr ⟨by omega, ?_⟩
      rw [← hn]
      exact hid

/-- An id issued to `a` at `s` could pass for `b` at `t` by accident: a bucket that counts
at `t` gives a message for `b` that collides with the one for `a`. -/
def Accident (a : Net.Endpoint) (s : Int64) (b : Net.Endpoint) (t : Int64) : Prop :=
  ∃ n, (n = key.bucket t ∨ n + 1 = key.bucket t) ∧
    Collide (key.message a (key.bucket s)) (key.message b n)

/-- An id issued to `a` at `s` is meant to pass for `b` at `t`. -/
def Good (a : Net.Endpoint) (s : Int64) (b : Net.Endpoint) (t : Int64) : Prop :=
  SameOrigin a b ∧ (key.bucket s = key.bucket t ∨ key.bucket s + 1 = key.bucket t)

theorem Good.verify {key : ConnectionKey} (h : key.Good a s b t) :
    key.verify (key.issue a s) b t = true := by
  refine (verify_iff key _ _ _).mpr ⟨key.bucket s, h.2, ?_⟩
  show key.derive a _ = key.derive b _
  rw [derive, derive, claim_congr h.1]

theorem good_or_accident (h : key.verify (key.issue a s) b t = true) :
    key.Good a s b t ∨ key.Accident a s b t := by
  obtain ⟨n, hn, hid⟩ := (verify_iff key _ _ _).mp h
  have hlt : n < 2 ^ 64 := by
    have ht := key.bucket_lt t
    omega
  rcases sameOrigin_or_collide key (key.bucket_lt s) hlt hid with ⟨horigin, rfl⟩ | hcollide
  · exact Or.inl ⟨horigin, hn⟩
  · exact Or.inr ⟨n, hn, hcollide⟩

end ConnectionKey

open ConnectionKey in
/-- **A connection id vouches for an origin and a time.** Whatever the secret and the
configured lifetime, zero acting as one: what is digested is the same for two endpoints
and two buckets only if they have one host, one port and one bucket. So an id passes for
the origin it was issued to in its own bucket and in the next, and passes elsewhere only
by accident. From the epoch on this means that it passes for one lifetime at least, and
short of an accident neither after two lifetimes nor, at any time, for another origin. -/
theorem connection_id_vouches (secret : Bytes) (configured : UInt64) (a b : Net.Endpoint)
    (s t : Int64) :
    let key := ConnectionKey.ofLifetime secret configured
    let lifetime : Int := (max configured.toNat 1 : Nat)
    let passes := key.verify (key.issue a s) b t = true
    (∀ m n, m < 2 ^ 64 → n < 2 ^ 64 → claim a m = claim b n → SameOrigin a b ∧ m = n) ∧
      (key.Good a s b t → passes) ∧
      (¬key.Good a s b t → passes → key.Accident a s b t) ∧
      (SameOrigin a b → 0 ≤ s.toInt → s.toInt ≤ t.toInt → t.toInt ≤ s.toInt + lifetime →
        passes) ∧
      (0 ≤ s.toInt → s.toInt + 2 * lifetime ≤ t.toInt → passes → key.Accident a s b t) ∧
      (¬SameOrigin a b → passes → key.Accident a s b t) := by
  intro key lifetime passes
  have hlifetime : lifetime = key.lifetime := rfl
  have haccident : ¬key.Good a s b t → passes → key.Accident a s b t :=
    fun hbad hpasses => (good_or_accident key hpasses).resolve_left hbad
  refine ⟨fun m n hm hn => claim_inj hm hn, Good.verify, haccident, ?_, ?_, ?_⟩
  · intro horigin hs hst hts
    rw [hlifetime] at hts
    have hbucket : key.bucket s = key.bucket t ∨ key.bucket s + 1 = key.bucket t :=
      bucket_of_le_add key hst (by omega)
    exact Good.verify ⟨horigin, hbucket⟩
  · intro hs hst
    rw [hlifetime] at hst
    have hbucket := bucket_of_add_le key hs hst
    exact haccident fun hgood => by
      obtain ⟨-, hsame | hnext⟩ := hgood <;> omega
  · intro horigin
    exact haccident fun hgood => horigin hgood.1

/-- One host under both forms of its address. The id passes to the last second of one
lifetime, though a bucket began in between, and not after two lifetimes. -/
theorem connection_id_vouches_mapped :
    let key := ConnectionKey.ofLifetime (List.replicate 32 0) 120
    let a : Net.Endpoint := ⟨.v6 ⟨0, 0, 0, 0, 0, 0xFFFF, 0x0102, 0x0304⟩, 6881, 0⟩
    let b : Net.Endpoint := ⟨.v4 ⟨1, 2, 3, 4⟩, 6881, 0⟩
    SameOrigin a b ∧ key.bucket 100 + 1 = key.bucket 220 ∧
      key.verify (key.issue a 100) b 220 = true ∧ key.verify (key.issue a 100) b 340 = false := by
  intro key a b
  have horigin : SameOrigin a b := ⟨by decide, by decide⟩
  have hvouches := connection_id_vouches (List.replicate 32 0) 120 a b 100 220
  have hpasses : key.verify (key.issue a 100) b 220 = true :=
    hvouches.2.2.2.1 horigin (by decide) (by decide) (by decide)
  exact ⟨horigin, by decide, hpasses, by decide +kernel⟩

end PeerTracker.Udp
