import PeerTracker.Bytes.BigEndian

/-!
# LZ4 blocks with their size in front

A block is a row of sequences: literals, then a copy of earlier output. The last
sequence has literals only. The size in front, least significant octet first,
bounds what a block may unfold to.

Any block that unfolds to the same octets is as good, so it is left to the writer what to look
for. This one puts everything into one row of literals and looks for no copies: its blocks are
longer than those of a compressor that does, and the octets of a stored snapshot, and their
number, are not those that such a one gives. What is read back is the same.
-/

namespace PeerTracker.Lz4

/-! ## Writing -/

/-- What is left of a length after the nibble in the token. -/
def extraLength (n : Nat) : Bytes :=
  if n < 255 then [UInt8.ofNat n] else 255 :: extraLength (n - 255)

def compressBlock (bs : Bytes) : Bytes :=
  if bs.length < 15 then UInt8.ofNat (16 * bs.length) :: bs
  else 0xF0 :: extraLength (bs.length - 15) ++ bs

def compress (bs : Bytes) : Bytes :=
  (BigEndian.encode 4 bs.length).reverse ++ compressBlock bs

/-! ## Reading -/

inductive Error where
  /-- The block or its size ends early. -/
  | unexpectedEnd
  /-- More output than announced. -/
  | outputTooLarge
  /-- A copy from before the output, or from its very end. -/
  | badOffset
deriving DecidableEq, Repr

/-- Adds octets up to the first that is not 255. -/
def readExtra : Bytes → Except Error (Nat × Bytes)
  | [] => .error .unexpectedEnd
  | b :: rest =>
    if b = 255 then do
      let (n, rest) ← readExtra rest
      pure (255 + n, rest)
    else .ok (b.toNat, rest)

/-- A length that starts in a nibble of the token. -/
def readLength (nibble : Nat) (bs : Bytes) : Except Error (Nat × Bytes) :=
  if nibble = 15 then do
    let (n, rest) ← readExtra bs
    pure (15 + n, rest)
  else .ok (nibble, bs)

/-- Copies `n` octets from `offset` octets back, each seeing those before it; the
output is held last octet first. -/
def copyBack (offset : Nat) : (n : Nat) → Bytes → Bytes
  | 0, out => out
  | n + 1, out => copyBack offset n (out.getD (offset - 1) 0 :: out)

/-- The copy that follows the literals of a sequence. -/
def copyMatch (limit nibble : Nat) (out bs : Bytes) : Except Error (Bytes × Bytes) :=
  match bs with
  | lo :: hi :: bs => do
    let offset := lo.toNat + 256 * hi.toNat
    let (n, bs) ← readLength nibble bs
    if limit < out.length + (n + 4) then throw .outputTooLarge
    else if offset = 0 ∨ out.length < offset then throw .badOffset
    else pure (copyBack offset (n + 4) out, bs)
  | _ => .error .unexpectedEnd

/-- The literals of a sequence. -/
def copyLiterals (limit nibble : Nat) (out bs : Bytes) : Except Error (Bytes × Bytes) := do
  let (n, bs) ← readLength nibble bs
  if bs.length < n then throw .unexpectedEnd
  else if limit < out.length + n then throw .outputTooLarge
  else pure ((bs.take n).reverse ++ out, bs.drop n)

/-- All sequences; `fuel` exceeds their number, which is at most that of the
octets. -/
def sequences (limit : Nat) : (fuel : Nat) → (out bs : Bytes) → Except Error Bytes
  | 0, _, _ => .error .unexpectedEnd
  | _, _, [] => .error .unexpectedEnd
  | fuel + 1, out, token :: bs => do
    let (out, bs) ← copyLiterals limit (token.toNat / 16) out bs
    if bs = [] then pure out.reverse
    else
      let (out, bs) ← copyMatch limit (token.toNat % 16) out bs
      sequences limit fuel out bs

/-- The output of a block that is to have at most `limit` octets. -/
def decompressBlock (limit : Nat) (bs : Bytes) : Except Error Bytes :=
  sequences limit (bs.length + 1) [] bs

def decompress (bs : Bytes) : Except Error Bytes :=
  if bs.length < 4 then .error .unexpectedEnd
  else decompressBlock (BigEndian.decode (bs.take 4).reverse) (bs.drop 4)

end PeerTracker.Lz4
