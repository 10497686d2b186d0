import PeerTracker.Bytes.BigEndian

/-!
# SHA-1

The message is padded to blocks of sixteen words. Each block is stirred into five
words by eighty rounds over a sliding window of sixteen words, and the digest is
the five words.
-/

namespace PeerTracker.Sha1

structure Chain where
  a : UInt32
  b : UInt32
  c : UInt32
  d : UInt32
  e : UInt32

def initial : Chain := ⟨0x67452301, 0xEFCDAB89, 0x98BADCFE, 0x10325476, 0xC3D2E1F0⟩

def rotate (x k : UInt32) : UInt32 := (x <<< k) ||| (x >>> (32 - k))

/-- A one bit, zeros, and the length in bits, to a multiple of 64 octets. -/
def pad (message : Bytes) : Bytes :=
  message ++ [0x80] ++ List.replicate ((119 - message.length % 64) % 64) 0
    ++ BigEndian.encode 8 (8 * message.length)

/-- The part of a round that depends on its number. -/
def mix (t : Nat) (b c d : UInt32) : UInt32 :=
  if t < 20 then ((b &&& c) ||| (~~~b &&& d)) + 0x5A827999
  else if t < 40 then (b ^^^ c ^^^ d) + 0x6ED9EBA1
  else if t < 60 then ((b &&& c) ||| (b &&& d) ||| (c &&& d)) + 0x8F1BBCDC
  else (b ^^^ c ^^^ d) + 0xCA62C1D6

def round (t : Nat) (w : UInt32) (s : Chain) : Chain :=
  ⟨rotate s.a 5 + mix t s.b s.c s.d + s.e + w, s.a, rotate s.b 30, s.c, s.d⟩

/-- Rounds `t`, `t + 1`, … over the window, `n` of them. -/
def rounds : (n t : Nat) → List UInt32 → Chain → Chain
  | 0, _, _, s => s
  | n + 1, t, window, s =>
    let next := rotate (window.getD 13 0 ^^^ window.getD 8 0 ^^^ window.getD 2 0
      ^^^ window.getD 0 0) 1
    rounds n (t + 1) (window.drop 1 ++ [next]) (round t (window.headD 0) s)

def words : Bytes → List UInt32
  | a :: b :: c :: d :: rest => UInt32.ofNat (BigEndian.decode [a, b, c, d]) :: words rest
  | _ => []

def absorb (s : Chain) (window : List UInt32) : Chain :=
  let r := rounds 80 0 window s
  ⟨s.a + r.a, s.b + r.b, s.c + r.c, s.d + r.d, s.e + r.e⟩

/-- Blocks of sixteen words; `n` is their number. -/
def absorbAll : (n : Nat) → List UInt32 → Chain → Chain
  | 0, _, s => s
  | n + 1, ws, s => absorbAll n (ws.drop 16) (absorb s (ws.take 16))

def digest (message : Bytes) : Bytes :=
  let ws := words (pad message)
  let s := absorbAll (ws.length / 16) ws initial
  [s.a, s.b, s.c, s.d, s.e].flatMap fun w => BigEndian.encode 4 w.toNat

end PeerTracker.Sha1
