import PeerTracker.Bytes.BigEndian

/-!
# Decimal numbers

`Decimal.write` gives the digits of a number without leading zeros and
`Decimal.read?` accepts any nonempty run of digits. The readers of fixed width
allow a sign in front and refuse what does not fit: an unsigned number may carry
`+` only.
-/

namespace PeerTracker.Decimal

def digit (n : Nat) : UInt8 := UInt8.ofNat (48 + n)

def isDigit (b : UInt8) : Bool := 48 ≤ b && b ≤ 57

def write (n : Nat) : Bytes :=
  if n < 10 then [digit n] else write (n / 10) ++ [digit (n % 10)]

def writeInt (i : Int) : Bytes :=
  if i < 0 then 45 :: write i.natAbs else write i.natAbs

/-- The value of a run of digits. -/
def value (bs : Bytes) : Nat :=
  bs.foldl (fun n b => n * 10 + (b.toNat - 48)) 0

def read? (bs : Bytes) : Option Nat :=
  if bs ≠ [] ∧ bs.all isDigit then some (value bs) else none

def readUInt64? (bs : Bytes) : Option UInt64 :=
  let digits := match bs with
    | 43 :: rest => rest
    | _ => bs
  (read? digits).bind fun n => if n < UInt64.size then some (UInt64.ofNat n) else none

/-- The greatest number that fits with a minus sign; one less fits without. -/
def negativeLimit : Nat := 0x8000000000000000

def readInt64? : Bytes → Option Int64
  | 45 :: rest => (read? rest).bind fun n =>
      if n ≤ negativeLimit then some (Int64.ofInt (-n)) else none
  | 43 :: rest => (read? rest).bind fun n =>
      if n < negativeLimit then some (Int64.ofNat n) else none
  | bs => (read? bs).bind fun n =>
      if n < negativeLimit then some (Int64.ofNat n) else none

theorem toNat_digit {n : Nat} (h : n < 10) : (digit n).toNat = 48 + n := by
  rw [digit, UInt8.toNat_ofNat']
  omega

theorem isDigit_digit {n : Nat} (h : n < 10) : isDigit (digit n) = true := by
  simp only [isDigit, Bool.and_eq_true, decide_eq_true_eq, UInt8.le_iff_toNat_le,
    toNat_digit h]
  constructor
  · exact Nat.le_add_right 48 n
  · show 48 + n ≤ 57
    omega

theorem write_ne_nil (n : Nat) : write n ≠ [] := by
  rw [write]
  split <;> simp

theorem all_isDigit_write (n : Nat) : (write n).all isDigit = true := by
  fun_induction write n with
  | case1 n h => simp [isDigit_digit h]
  | case2 n h ih => simp [ih, isDigit_digit (Nat.mod_lt n (by decide : 0 < 10))]

theorem write_eq_cons (n : Nat) : ∃ b rest, write n = b :: rest ∧ isDigit b = true := by
  obtain ⟨b, rest, h⟩ := List.exists_cons_of_ne_nil (write_ne_nil n)
  have hdigits := all_isDigit_write n
  rw [h, List.all_cons, Bool.and_eq_true] at hdigits
  exact ⟨b, rest, h, hdigits.1⟩

theorem writeInt_negSucc (n : Nat) : writeInt (.negSucc n) = 45 :: write (n + 1) :=
  if_pos (Int.negSucc_lt_zero n)

theorem value_snoc (bs : Bytes) (b : UInt8) :
    value (bs ++ [b]) = value bs * 10 + (b.toNat - 48) := by
  simp [value, List.foldl_append]

theorem value_write (n : Nat) : value (write n) = n := by
  fun_induction write n with
  | case1 n h =>
    show 0 * 10 + ((digit n).toNat - 48) = n
    rw [toNat_digit h]
    omega
  | case2 n h ih =>
    rw [value_snoc, ih, toNat_digit (Nat.mod_lt n (by decide))]
    omega

theorem read?_write (n : Nat) : read? (write n) = some n := by
  simp [read?, write_ne_nil, all_isDigit_write, value_write]

end PeerTracker.Decimal
