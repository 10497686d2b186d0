import PeerTracker.Bytes.BigEndian

/-!
# The order of byte strings

Byte strings are ordered octet by octet; a shorter one comes before what it
begins.
-/

namespace PeerTracker.Bytes

def before : Bytes → Bytes → Bool
  | _, [] => false
  | [], _ :: _ => true
  | a :: as, b :: bs => decide (a < b) || (a == b && before as bs)

theorem before_irrefl (a : Bytes) : before a a = false := by
  induction a with
  | nil => rfl
  | cons x xs ih => simp [before, ih]

theorem ne_of_before {a b : Bytes} (h : before a b = true) : a ≠ b := by
  rintro rfl
  rw [before_irrefl] at h
  cases h

theorem before_trans {a b c : Bytes} (h₁ : before a b = true) (h₂ : before b c = true) :
    before a c = true := by
  induction a generalizing b c with
  | nil =>
    cases c with
    | nil => cases b <;> simp [before] at h₂
    | cons => rfl
  | cons x xs ih =>
    cases b with
    | nil => simp [before] at h₁
    | cons y ys =>
      cases c with
      | nil => simp [before] at h₂
      | cons z zs =>
        simp only [before, Bool.or_eq_true, decide_eq_true_eq, Bool.and_eq_true, beq_iff_eq,
          UInt8.lt_iff_toNat_lt] at h₁ h₂ ⊢
        rcases h₁ with h₁ | ⟨rfl, h₁⟩
        · rcases h₂ with h₂ | ⟨rfl, -⟩
          · exact Or.inl (Nat.lt_trans h₁ h₂)
          · exact Or.inl h₁
        · rcases h₂ with h₂ | ⟨rfl, h₂⟩
          · exact Or.inl h₂
          · exact Or.inr ⟨rfl, ih h₁ h₂⟩

theorem before_total {a b : Bytes} (h : a ≠ b) : before a b = true ∨ before b a = true := by
  induction a generalizing b with
  | nil =>
    cases b with
    | nil => exact absurd rfl h
    | cons => exact Or.inl rfl
  | cons x xs ih =>
    cases b with
    | nil => exact Or.inr rfl
    | cons y ys =>
      simp only [before, Bool.or_eq_true, decide_eq_true_eq, Bool.and_eq_true, beq_iff_eq,
        UInt8.lt_iff_toNat_lt]
      by_cases hxy : x = y
      · subst hxy
        rcases ih (fun e => h (by rw [e])) with h' | h'
        · exact Or.inl (Or.inr ⟨rfl, h'⟩)
        · exact Or.inr (Or.inr ⟨rfl, h'⟩)
      · have : x.toNat ≠ y.toNat := fun e => hxy (UInt8.toNat_inj.1 e)
        rcases Nat.lt_or_gt_of_ne this with h' | h'
        · exact Or.inl (Or.inl h')
        · exact Or.inr (Or.inl h')

def order (a b : Bytes) : Ordering :=
  if before a b then .lt else if a = b then .eq else .gt

end PeerTracker.Bytes
