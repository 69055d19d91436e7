import Mathlib.Algebra.Order.Field.Basic
import Mathlib.Algebra.Order.Field.Rat
import Mathlib.Tactic.FieldSimp
import Mathlib.Tactic.Linarith
import TextExpr.Proofs.Rounding

/-!
# The nearest multiple

Rounding a quotient gives the whole number that is nearest to it, and of two that are as near the
even one. On a grid of equal steps the same holds of the multiples of the step.
-/
namespace TextExpr

variable {step r : ℚ} {n num den : Nat}

/-- No multiple of the step is nearer to the rational than this one, and where another is as near
this one is even. -/
structure IsNearestMultiple (step r : ℚ) (n : Nat) : Prop where
  nearest (j : ℤ) : |n * step - r| ≤ |j * step - r|
  even (j : ℤ) (other : j ≠ n) (tie : |n * step - r| = |j * step - r|) : n % 2 = 0

/-- What is rounded is at most half a denominator away, and half a one only from an even number. -/
theorem divEven_error (positive : 0 < den) (num : Nat) :
    2 * num ≤ 2 * (divEven num den * den) + den ∧
    2 * (divEven num den * den) ≤ 2 * num + den ∧
    (2 * num = 2 * (divEven num den * den) + den ∨ 2 * (divEven num den * den) = 2 * num + den →
      divEven num den % 2 = 0) := by
  have split : den * (num / den) + num % den = num := Nat.div_add_mod num den
  have rest : num % den < den := Nat.mod_lt num positive
  have up : (num / den + 1) * den = den * (num / den) + den := by ring
  have down : num / den * den = den * (num / den) := Nat.mul_comm _ _
  rcases Nat.lt_trichotomy (2 * (num % den)) den with below | half | above
  · have rounded : divEven num den = num / den := by simp [divEven, below]
    rw [rounded, down]
    omega
  · have rounded : divEven num den = num / den + num / den % 2 := by simp [divEven, half]
    have even : (num / den + num / den % 2) % 2 = 0 := by omega
    rw [rounded]
    rcases Nat.mod_two_eq_zero_or_one (num / den) with zero | one
    · rw [zero, Nat.add_zero, down]
      omega
    · rw [one, up]
      omega
  · have notBelow : ¬ 2 * (num % den) < den := by omega
    have rounded : divEven num den = num / den + 1 := by simp [divEven, above, notBelow]
    rw [rounded, up]
    omega

/-- A multiple that is at most half a step away is a nearest one. -/
theorem isNearestMultiple_of_half (positive : 0 < step) (near : |n * step - r| ≤ step / 2)
    (even : |n * step - r| = step / 2 → n % 2 = 0) : IsNearestMultiple step r n := by
  -- another multiple is a whole step away from this one
  have far : ∀ j : ℤ, j ≠ n → step / 2 ≤ |j * step - r| := by
    intro j other
    have apart : (1 : ℚ) ≤ |(j : ℚ) - n| := by
      have whole : (1 : ℤ) ≤ |j - n| := Int.one_le_abs (sub_ne_zero.mpr other)
      exact_mod_cast whole
    have steps : step ≤ |j * step - n * step| := by
      rw [← sub_mul, abs_mul, abs_of_pos positive]
      exact le_mul_of_one_le_left positive.le apart
    have triangle : |j * step - n * step| ≤ |j * step - r| + |n * step - r| := by
      rw [abs_sub_comm (n * step) r]
      exact abs_sub_le _ _ _
    linarith
  constructor
  · intro j
    by_cases same : j = n
    · simp [same]
    · exact near.trans (far j same)
  · intro j other tie
    have least := far j other
    rw [← tie] at least
    exact even (le_antisymm near least)

/-- A quotient of steps is rounded to a nearest multiple of the step. -/
theorem isNearestMultiple_divEven (positive : 0 < step) (some_den : 0 < den) (num : Nat) :
    IsNearestMultiple step (num / den * step) (divEven num den) := by
  obtain ⟨low, high, tie⟩ := divEven_error some_den num
  generalize divEven num den = n at *
  have den_pos : (0 : ℚ) < den := Nat.cast_pos.mpr some_den
  have part_pos : 0 < step / den := div_pos positive den_pos
  have distance : |(n : ℚ) * step - num / den * step| = |(n : ℚ) * den - num| * (step / den) := by
    have parts : (n : ℚ) * step - num / den * step = (n * den - num) * (step / den) := by
      field_simp
    rw [parts, abs_mul, abs_of_pos part_pos]
  have half : step / 2 = den / 2 * (step / den) := by field_simp
  apply isNearestMultiple_of_half positive
  · rw [distance, half]
    apply mul_le_mul_of_nonneg_right _ part_pos.le
    have low' : (2 * num : ℚ) ≤ 2 * (n * den) + den := by exact_mod_cast low
    have high' : (2 * (n * den) : ℚ) ≤ 2 * num + den := by exact_mod_cast high
    rw [abs_le]
    constructor <;> linarith
  · intro equal
    rw [distance, half] at equal
    have equal' : |(n : ℚ) * den - num| = den / 2 := mul_right_cancel₀ part_pos.ne' equal
    apply tie
    rcases abs_cases ((n : ℚ) * den - num) with ⟨above, _⟩ | ⟨below, _⟩
    · right
      have exact : (2 * (n * den) : ℚ) = 2 * num + den := by linarith
      exact_mod_cast exact
    · left
      have exact : (2 * num : ℚ) = 2 * (n * den) + den := by linarith
      exact_mod_cast exact

end TextExpr
