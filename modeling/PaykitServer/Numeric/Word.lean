import Mathlib.Algebra.Order.Field.Basic
import Mathlib.Algebra.Group.Even
import Mathlib.Data.Nat.Cast.Order.Field
import Mathlib.Tactic.Linarith
import Mathlib.Tactic.FieldSimp
import Mathlib.Tactic.Ring

/-!
# Words: checked operations and rounded quotients

The plain operations of a word wrap; the checked ones fail where the exact result leaves
the word. Two quotients of words are rounded: up, and to the nearest with ties to the even
neighbour. Each operation is characterised by the numbers its operands stand for, so that
a computation in words is read as a computation in numbers.
-/

namespace Numeric

section Words

variable {w : Nat} {a b c : BitVec w}

def checkedMul (a b : BitVec w) : Option (BitVec w) :=
  if a.umulOverflow b then none else some (a * b)

def checkedAdd (a b : BitVec w) : Option (BitVec w) :=
  if a.uaddOverflow b then none else some (a + b)

theorem checkedMul_eq_some :
    checkedMul a b = some c ↔ a.toNat * b.toNat < 2 ^ w ∧ c.toNat = a.toNat * b.toNat := by
  unfold checkedMul BitVec.umulOverflow
  by_cases fits : a.toNat * b.toNat < 2 ^ w
  · simp [fits, Nat.not_le.mpr fits, ← BitVec.toNat_inj, Nat.mod_eq_of_lt fits, eq_comm]
  · simp [fits, Nat.not_lt.mp fits]

theorem checkedAdd_eq_some :
    checkedAdd a b = some c ↔ a.toNat + b.toNat < 2 ^ w ∧ c.toNat = a.toNat + b.toNat := by
  unfold checkedAdd BitVec.uaddOverflow
  by_cases fits : a.toNat + b.toNat < 2 ^ w
  · simp [fits, Nat.not_le.mpr fits, ← BitVec.toNat_inj, Nat.mod_eq_of_lt fits, eq_comm]
  · simp [fits, Nat.not_lt.mp fits]

def bit (w : Nat) (flag : Bool) : BitVec w := BitVec.ofNat w flag.toNat

def ceilDiv (a b : BitVec w) : BitVec w := a / b + bit w (a % b ≠ 0)

/-- The quotient rounded to the nearest, a tie to the even neighbour. -/
def halfEvenDiv (a b : BitVec w) : BitVec w :=
  let quotient := a / b
  let remainder := a % b
  quotient + bit w (b < remainder * 2 ∨ (remainder * 2 = b ∧ quotient % 2 ≠ 0))

theorem toNat_bit (positive : 0 < w) (flag : Bool) : (bit w flag).toNat = flag.toNat := by
  have small : flag.toNat < 2 ^ w := by
    have := Bool.toNat_le flag
    have := Nat.one_lt_two_pow (n := w) (by omega)
    omega
  simp [bit, Nat.mod_eq_of_lt small]

theorem width_pos (positive : 0 < b.toNat) : 0 < w := by
  have := b.isLt
  apply Nat.pos_of_ne_zero
  intro none
  simp [none] at this
  omega

/-- A quotient that is rounded up only over a remainder stays in the word. -/
theorem toNat_div_add_bit (positive : 0 < b.toNat) {flag : Bool}
    (inexact : flag = true → a.toNat % b.toNat ≠ 0) :
    (a / b + bit w flag).toNat = a.toNat / b.toNat + flag.toNat := by
  have fits : a.toNat / b.toNat + flag.toNat < 2 ^ w := by
    apply Nat.lt_of_le_of_lt _ a.isLt
    cases flag with
    | false => exact Nat.div_le_self _ _
    | true =>
      have rest := inexact rfl
      have apart : 1 < b.toNat := by
        apply Nat.lt_of_le_of_ne positive
        intro one
        simp [← one, Nat.mod_one] at rest
      have some : 0 < a.toNat := by
        apply Nat.pos_of_ne_zero
        intro zero
        simp [zero] at rest
      exact Nat.div_lt_self some apart
  simp only [BitVec.toNat_add, BitVec.toNat_udiv, toNat_bit (width_pos positive)]
  exact Nat.mod_eq_of_lt fits

theorem toNat_ceilDiv (positive : 0 < b.toNat) :
    (ceilDiv a b).toNat = a.toNat / b.toNat + (decide (a.toNat % b.toNat ≠ 0)).toNat := by
  have flag : (a % b ≠ 0) ↔ a.toNat % b.toNat ≠ 0 := by
    simp [← BitVec.toNat_inj, BitVec.toNat_umod]
  simp only [ceilDiv, flag]
  exact toNat_div_add_bit positive (by simp)

/-- The rounded quotient is the first number whose product with the divisor covers the
dividend. -/
theorem ceilDiv_le_iff (positive : 0 < b.toNat) {n : Nat} :
    (ceilDiv a b).toNat ≤ n ↔ a.toNat ≤ n * b.toNat := by
  have split := Nat.div_add_mod a.toNat b.toNat
  have below := Nat.mod_lt a.toNat positive
  rw [toNat_ceilDiv positive]
  by_cases rest : a.toNat % b.toNat = 0
  · simp only [rest, ne_eq, not_true_eq_false, decide_false, Bool.toNat_false, Nat.add_zero]
    rw [← Nat.mul_le_mul_left_iff positive, Nat.mul_comm n]
    omega
  · simp only [ne_eq, rest, not_false_eq_true, decide_true, Bool.toNat_true]
    rw [Nat.succ_le_iff, Nat.div_lt_iff_lt_mul positive]
    constructor
    · exact Nat.le_of_lt
    · intro covers
      apply Nat.lt_of_le_of_ne covers
      intro exact
      simp [exact] at rest

/-- The rule that rounds to the nearest, in numbers. -/
def RoundsUp (quotient remainder divisor : Nat) : Prop :=
  divisor < remainder * 2 ∨ (remainder * 2 = divisor ∧ quotient % 2 ≠ 0)

instance (quotient remainder divisor : Nat) : Decidable (RoundsUp quotient remainder divisor) :=
  inferInstanceAs (Decidable (_ ∨ _))

theorem toNat_halfEvenDiv (wide : 1 < w) (positive : 0 < b.toNat) (room : a.toNat * 2 < 2 ^ w) :
    (halfEvenDiv a b).toNat = a.toNat / b.toNat +
      (decide (RoundsUp (a.toNat / b.toNat) (a.toNat % b.toNat) b.toNat)).toNat := by
  have two : (2 : BitVec w).toNat = 2 := by
    have : 2 ^ 1 < 2 ^ w := Nat.pow_lt_pow_right (by decide) wide
    exact Nat.mod_eq_of_lt this
  have doubled : (a % b * 2).toNat = a.toNat % b.toNat * 2 := by
    rw [BitVec.toNat_mul_of_lt, BitVec.toNat_umod, two]
    rw [BitVec.toNat_umod, two]
    exact Nat.lt_of_le_of_lt (Nat.mul_le_mul_right 2 (Nat.mod_le _ _)) room
  have none : (0 : BitVec w).toNat = 0 := Nat.zero_mod _
  have flag : (b < a % b * 2 ∨ (a % b * 2 = b ∧ a / b % 2 ≠ 0)) ↔
      RoundsUp (a.toNat / b.toNat) (a.toNat % b.toNat) b.toNat := by
    simp only [RoundsUp, BitVec.lt_def, ← BitVec.toNat_inj, ne_eq, doubled, BitVec.toNat_umod,
      BitVec.toNat_udiv, two, none]
  simp only [halfEvenDiv, flag]
  apply toNat_div_add_bit positive
  intro up exact
  have up := of_decide_eq_true up
  simp only [RoundsUp, exact] at up
  omega

end Words

section Rounding

variable {K : Type} [Field K] [LinearOrder K] [IsStrictOrderedRing K]
variable {w : Nat} {a b : BitVec w}

/-- A nearest number, the even one of two. -/
def RoundsHalfEven (x : K) (n : Nat) : Prop :=
  |x - n| ≤ 1 / 2 ∧ (|x - n| = 1 / 2 → Even n)

theorem div_sub_eq (quotient remainder : Nat) {divisor : Nat} (positive : 0 < divisor) (up : Nat) :
    ((divisor * quotient + remainder : Nat) : K) / divisor - (quotient + up : Nat) =
      (remainder - up * divisor) / divisor := by
  have positive : (0 : K) < divisor := by exact_mod_cast positive
  push_cast
  field_simp
  ring

theorem roundsHalfEven_div (dividend : Nat) {divisor : Nat} (positive : 0 < divisor) :
    RoundsHalfEven ((dividend : K) / divisor) (dividend / divisor +
      (decide (RoundsUp (dividend / divisor) (dividend % divisor) divisor)).toNat) := by
  have below := Nat.mod_lt dividend positive
  conv => enter [1, 1]; rw [← Nat.div_add_mod dividend divisor]
  generalize dividend / divisor = quotient
  generalize dividend % divisor = remainder at below
  have wide : (0 : K) < divisor := by exact_mod_cast positive
  have nonneg : (0 : K) ≤ remainder := Nat.cast_nonneg _
  have inside : (remainder : K) < divisor := by exact_mod_cast below
  unfold RoundsHalfEven
  rw [div_sub_eq quotient remainder positive, abs_div, abs_of_pos wide, div_le_iff₀ wide,
    div_eq_iff (ne_of_gt wide)]
  by_cases up : RoundsUp quotient remainder divisor
  · have far : (divisor : K) ≤ remainder * 2 := by
      have : divisor ≤ remainder * 2 := by
        unfold RoundsUp at up
        omega
      exact_mod_cast this
    simp only [up, decide_true, Bool.toNat_true, Nat.cast_one, one_mul]
    rw [abs_of_neg (by linarith)]
    refine ⟨by linarith, fun tie => ?_⟩
    have tied : (remainder * 2 : K) = divisor := by linarith
    have tied : remainder * 2 = divisor := by exact_mod_cast tied
    obtain far | ⟨-, odd⟩ := up
    · omega
    · exact Nat.even_iff.mpr (by omega)
  · have near : (remainder : K) * 2 ≤ divisor := by
      have : remainder * 2 ≤ divisor := by
        unfold RoundsUp at up
        omega
      exact_mod_cast this
    simp only [up, decide_false, Bool.toNat_false, Nat.cast_zero, zero_mul, sub_zero]
    rw [abs_of_nonneg nonneg]
    refine ⟨by linarith, fun tie => ?_⟩
    have tied : (remainder * 2 : K) = divisor := by linarith
    have tied : remainder * 2 = divisor := by exact_mod_cast tied
    exact Nat.even_iff.mpr (by unfold RoundsUp at up; omega)

theorem isLeast_ceilDiv (positive : 0 < b.toNat) :
    IsLeast {n : Nat | (a.toNat : K) / b.toNat ≤ n} (ceilDiv a b).toNat := by
  have covers : ∀ n : Nat, (a.toNat : K) / b.toNat ≤ n ↔ (ceilDiv a b).toNat ≤ n := by
    intro n
    rw [div_le_iff₀ (by exact_mod_cast positive), ceilDiv_le_iff positive]
    exact_mod_cast Iff.rfl
  constructor
  · exact (covers _).mpr (Nat.le_refl _)
  · intro n covered
    exact (covers n).mp covered

theorem halfEvenDiv_rounds (wide : 1 < w) (positive : 0 < b.toNat) (room : a.toNat * 2 < 2 ^ w) :
    RoundsHalfEven ((a.toNat : K) / b.toNat) (halfEvenDiv a b).toNat := by
  rw [toNat_halfEvenDiv wide positive room]
  exact roundsHalfEven_div a.toNat positive

end Rounding

end Numeric
