/-!
# Byte strings and network byte order

A byte string is a list of octets. `BigEndian.encode w n` writes the low `w`
octets of `n`, most significant first, and `BigEndian.decode` reads any number
of octets back. Reading what was written gives `n` modulo `span w`, and writing
what was read gives the same octets.
-/

namespace PeerTracker

/-- A byte string. -/
abbrev Bytes := List UInt8

/-- The code points of a text that holds ASCII only, as octets. -/
def ascii (s : String) : Bytes :=
  s.toList.map fun c => UInt8.ofNat c.toNat

namespace BigEndian

def encode : (width : Nat) → (n : Nat) → Bytes
  | 0, _ => []
  | w + 1, n => encode w (n / 256) ++ [UInt8.ofNat n]

def decode (bs : Bytes) : Nat :=
  bs.foldl (fun acc b => acc * 256 + b.toNat) 0

/-- How many numbers `width` octets can tell apart. -/
def span : (width : Nat) → Nat
  | 0 => 1
  | w + 1 => 256 * span w

@[simp] theorem length_encode (w n : Nat) : (encode w n).length = w := by
  induction w generalizing n with
  | zero => rfl
  | succ w ih => simp [encode, ih]

@[simp] theorem decode_nil : decode [] = 0 := rfl

theorem decode_snoc (bs : Bytes) (b : UInt8) :
    decode (bs ++ [b]) = decode bs * 256 + b.toNat := by
  simp [decode, List.foldl_append]

theorem decode_encode (w n : Nat) : decode (encode w n) = n % span w := by
  induction w generalizing n with
  | zero => simp [encode, span, Nat.mod_one]
  | succ w ih =>
    rw [encode, decode_snoc, ih, UInt8.toNat_ofNat', span, Nat.mod_mul]
    have : (2 : Nat) ^ 8 = 256 := rfl
    omega

theorem encode_decode (bs : Bytes) : encode bs.length (decode bs) = bs := by
  induction h : bs.length generalizing bs with
  | zero => rw [List.length_eq_zero_iff.1 h]; rfl
  | succ n ih =>
    rcases bs.eq_nil_or_concat with rfl | ⟨init, b, rfl⟩
    · simp at h
    · have hn : init.length = n := by simpa using h
      have hb := b.toNat_lt
      rw [List.concat_eq_append, encode, decode_snoc]
      have hd : (decode init * 256 + b.toNat) / 256 = decode init := by omega
      rw [hd, ih init hn]
      congr 2
      apply UInt8.toNat_inj.1
      rw [UInt8.toNat_ofNat']
      omega

theorem span_pos (w : Nat) : 0 < span w := by
  induction w with
  | zero => exact Nat.one_pos
  | succ w ih =>
    rw [span]
    omega

theorem decode_lt (bs : Bytes) : decode bs < span bs.length := by
  have h := decode_encode bs.length (decode bs)
  rw [encode_decode] at h
  rw [h]
  exact Nat.mod_lt _ (span_pos _)

theorem encode_inj {w m n : Nat} (hm : m < span w) (hn : n < span w)
    (h : encode w m = encode w n) : m = n := by
  have hdecode := congrArg decode h
  rw [decode_encode, decode_encode, Nat.mod_eq_of_lt hm, Nat.mod_eq_of_lt hn] at hdecode
  exact hdecode

theorem decode_inj {bs cs : Bytes} (hlength : bs.length = cs.length)
    (h : decode bs = decode cs) : bs = cs := by
  rw [← encode_decode bs, ← encode_decode cs, hlength, h]

/-- Fields of one width that follow one another can be cut apart. -/
theorem flatMap_inj {α : Type} {f : α → Bytes} {w : Nat} (hwidth : ∀ a, (f a).length = w)
    (hf : ∀ a b, f a = f b → a = b) {xs ys : List α} (hlength : xs.length = ys.length)
    (h : xs.flatMap f = ys.flatMap f) : xs = ys := by
  induction xs generalizing ys with
  | nil => exact (List.length_eq_zero_iff.mp hlength.symm).symm
  | cons x xs ih =>
    cases ys with
    | nil => cases hlength
    | cons y ys =>
      rw [List.flatMap_cons, List.flatMap_cons] at h
      obtain ⟨hhead, htail⟩ := List.append_inj h ((hwidth x).trans (hwidth y).symm)
      rw [hf x y hhead, ih (Nat.succ.inj hlength) htail]

end BigEndian

end PeerTracker
