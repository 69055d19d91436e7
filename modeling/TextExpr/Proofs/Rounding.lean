import Mathlib.Tactic.Ring
import TextExpr.Double.Decimal

/-!
# Rounding a quotient

What a quotient is rounded to depends on its value and not on how it is written. So a decimal can
be scaled by a power of ten, a number can be read from any decimal that has its exact value, and
the shortest decimal of a number reads back as the number.
-/
namespace TextExpr

variable {num den num' den' k : Nat}

theorem divEven_mul_left (positive : 0 < k) (num den : Nat) :
    divEven (k * num) (k * den) = divEven num den := by
  have twice : 2 * (k * num % (k * den)) = k * (2 * (num % den)) := by
    rw [Nat.mul_mod_mul_left]
    ring
  simp only [divEven, Nat.mul_div_mul_left _ _ positive, twice, Nat.mul_lt_mul_left positive]

theorem divEven_of_dvd (positive : 0 < den) (divides : den ∣ num) :
    divEven num den = num / den := by
  simp [divEven, Nat.mod_eq_zero_of_dvd divides, positive]

theorem div_le_divEven (num den : Nat) : num / den ≤ divEven num den := by
  unfold divEven
  dsimp only
  split
  · omega
  · split <;> omega

namespace Magnitude

theorem nearest_mul_left (positive : 0 < k) (num den : Nat) :
    nearest (k * num) (k * den) = nearest num den := by
  simp only [nearest, Nat.mul_div_mul_left _ _ positive, Nat.mul_assoc,
    divEven_mul_left positive]

/-- Equal quotients are rounded to the same units. -/
theorem nearest_congr (positive : 0 < den) (positive' : 0 < den')
    (same : num * den' = num' * den) : nearest num den = nearest num' den' := by
  calc nearest num den = nearest (den' * num) (den' * den) := (nearest_mul_left positive' _ _).symm
    _ = nearest (den * num') (den * den') := by rw [Nat.mul_comm den' num, same,
        Nat.mul_comm num' den, Nat.mul_comm den' den]
    _ = nearest num' den' := nearest_mul_left positive _ _

theorem nearest_units (m : Magnitude) : nearest m.units 1 = m.units := by
  have divides : spacing m.units ∣ m.units := m.representable.1
  rw [nearest, Nat.div_one, Nat.one_mul, divEven_of_dvd (spacing_pos _) divides]
  exact Nat.div_mul_cancel divides

/-- A power of two that a quotient reaches is reached also by the rounded quotient. -/
theorem le_nearest {j bound : Nat} (power : bound = Nat.pow 2 j) (far : 52 ≤ j)
    (reached : bound ≤ num / den) : bound ≤ nearest num den := by
  subst power
  have nonzero : num / den ≠ 0 :=
    Nat.ne_of_gt (Nat.lt_of_lt_of_le (Nat.pow_pos Nat.two_pos) reached)
  have bits : j ≤ (num / den).log2 := (Nat.le_log2 nonzero).mpr reached
  have lead : Nat.pow 2 (num / den).log2 = Nat.pow 2 52 * spacing (num / den) := by
    simp only [spacing, Nat.pow_eq, ← Nat.pow_add]
    congr 1
    omega
  have whole : Nat.pow 2 52 ≤ num / den / spacing (num / den) := by
    rw [Nat.le_div_iff_mul_le (spacing_pos _), ← lead]
    exact Nat.log2_self_le nonzero
  calc Nat.pow 2 j ≤ Nat.pow 2 (num / den).log2 := Nat.pow_le_pow_right Nat.two_pos bits
    _ = Nat.pow 2 52 * spacing (num / den) := lead
    _ ≤ nearest num den := by
      refine Nat.mul_le_mul_right _ (Nat.le_trans whole ?_)
      rw [Nat.div_div_eq_div_mul]
      exact div_le_divEven _ _

/-- A quotient below a half is rounded to zero. -/
theorem nearest_of_small (small : 2 * num < den) : nearest num den = 0 := by
  have zero : num / den = 0 := Nat.div_eq_of_lt (by omega)
  have below : num % den = num := Nat.mod_eq_of_lt (by omega)
  simp [nearest, zero, divEven, spacing, below, small]

end Magnitude

namespace Double

open Magnitude

theorem ofUnits_congr (s : Bool) (positive : 0 < den) (positive' : 0 < den')
    (same : num * den' = num' * den) : ofUnits s num den = ofUnits s num' den' := by
  simp only [ofUnits, nearest_congr positive positive' same]

theorem ofUnits_units (s : Bool) (m : Magnitude) : ofUnits s m.units 1 = .finite s m := by
  simp [ofUnits, nearest_units, m.representable.2]

theorem ofUnits_eq_zero (s : Bool) (small : 2 * num < den) : ofUnits s num den = zero s := by
  simp [ofUnits, nearest_of_small small, overflow_pos, zero, Magnitude.zero]

theorem ofUnits_eq_inf (s : Bool) (large : overflow ≤ num / den) :
    ofUnits s num den = .inf s := by
  have power : overflow = Nat.pow 2 2098 := by decide +kernel
  have reached : overflow ≤ nearest num den := le_nearest power (by decide) large
  simp [ofUnits, Nat.not_lt.mpr reached]

/-- The sign takes no part in the rounding. -/
theorem ofUnits_sign {s t : Bool} {m : Magnitude} (rounded : ofUnits s num den = .finite s m) :
    ofUnits t num den = .finite t m := by
  unfold ofUnits at rounded ⊢
  split at rounded
  next inside =>
    cases rounded
    rw [dif_pos inside]
  next => cases rounded

theorem mul_pow_lt {unit n : Nat} (power : unit = Nat.pow 2 n) (digits : Nat) :
    digits * unit < Nat.pow 2 (digits.log2 + 1 + n) := by
  subst power
  simp only [Nat.pow_eq, Nat.pow_add 2 (digits.log2 + 1) n]
  exact Nat.mul_lt_mul_of_pos_right Nat.lt_log2_self (Nat.two_pow_pos n)

theorem overflow_le_of_far (far : 311 ≤ k) : overflow ≤ Nat.pow 10 k * one := by
  induction k, far using Nat.le_induction with
  | base => decide +kernel
  | succ k _ ih =>
    have more : Nat.pow 10 k ≤ Nat.pow 10 (k + 1) :=
      Nat.pow_le_pow_right (by decide) (Nat.le_succ k)
    exact Nat.le_trans ih (Nat.mul_le_mul_right _ more)

/-- A decimal is rounded from its exact value, also where the power is not computed. -/
theorem ofDecimal_eq_ofUnits (s : Bool) (digits : Nat) (exponent : Int) :
    ofDecimal s digits exponent =
      ofUnits s (digits * Nat.pow 10 exponent.toNat * one) (Nat.pow 10 (-exponent).toNat) := by
  have unscaled : Nat.pow 10 0 = 1 := rfl
  unfold ofDecimal
  split
  next none =>
    rw [none, Nat.zero_mul, Nat.zero_mul, ofUnits_eq_zero s (Nat.pow_pos (by decide))]
  split
  -- 10 ^ 311 is past the largest number already, and the digits only add to it
  next nonzero large =>
    have down : (-exponent).toNat = 0 := by omega
    rw [down, unscaled]
    refine (ofUnits_eq_inf s ?_).symm
    rw [Nat.div_one]
    refine Nat.le_trans (overflow_le_of_far (k := exponent.toNat) (by omega)) ?_
    refine Nat.mul_le_mul_right _ ?_
    exact Nat.le_mul_of_pos_left _ (Nat.pos_of_ne_zero nonzero)
  split
  -- the factors of two in the power of ten alone are more than twice the digits
  next nonzero _ small =>
    have up : exponent.toNat = 0 := by omega
    have unit : one = Nat.pow 2 1074 := by decide +kernel
    rw [up, unscaled, Nat.mul_one]
    refine (ofUnits_eq_zero s ?_).symm
    calc 2 * (digits * one) < 2 * Nat.pow 2 (digits.log2 + 1 + 1074) :=
          Nat.mul_lt_mul_of_pos_left (mul_pow_lt unit digits) Nat.two_pos
      _ = Nat.pow 2 (digits.log2 + 1 + 1074 + 1) := Nat.pow_succ'.symm
      _ ≤ Nat.pow 2 (-exponent).toNat := Nat.pow_le_pow_right Nat.two_pos (by omega)
      _ ≤ Nat.pow 10 (-exponent).toNat := Nat.pow_le_pow_left (by decide) _
  split
  next whole =>
    have down : (-exponent).toNat = 0 := by omega
    rw [down, unscaled]
  next fractional =>
    have up : exponent.toNat = 0 := by omega
    rw [up, unscaled, Nat.mul_one]

/-- Zeros at the end of the digits count as much as the exponent. -/
theorem ofDecimal_shift (s : Bool) (digits k : Nat) (exponent : Int) :
    ofDecimal s (digits * Nat.pow 10 k) exponent = ofDecimal s digits (exponent + k) := by
  have ten : ∀ n, 0 < Nat.pow 10 n := fun n => Nat.pow_pos (by decide)
  rw [ofDecimal_eq_ofUnits, ofDecimal_eq_ofUnits]
  refine ofUnits_congr s (ten _) (ten _) ?_
  have balance : k + exponent.toNat + (-(exponent + k)).toNat =
      (exponent + k).toNat + (-exponent).toNat := by omega
  have powers : Nat.pow 10 k * Nat.pow 10 exponent.toNat * Nat.pow 10 (-(exponent + k)).toNat =
      Nat.pow 10 (exponent + k).toNat * Nat.pow 10 (-exponent).toNat := by
    simp only [Nat.pow_eq, ← Nat.pow_add, balance]
  calc _ = digits * one * (Nat.pow 10 k * Nat.pow 10 exponent.toNat *
        Nat.pow 10 (-(exponent + k)).toNat) := by ring
    _ = _ := by rw [powers]; ring

theorem ofDecimal_sign {s t : Bool} {m : Magnitude} {digits : Nat} {exponent : Int}
    (rounded : ofDecimal s digits exponent = .finite s m) :
    ofDecimal t digits exponent = .finite t m := by
  rw [ofDecimal_eq_ofUnits] at rounded ⊢
  exact ofUnits_sign rounded

/-- The number that a decimal is rounded to. -/
def ofRounded (s : Bool) (d : Decimal) : Double := ofDecimal s d.digits d.exponent

theorem ofRounded_stripZeros (s : Bool) (fuel : Nat) (d : Decimal) :
    ofRounded s (Decimal.stripZeros fuel d) = ofRounded s d := by
  induction fuel generalizing d with
  | zero => rfl
  | succ fuel ih =>
    rw [Decimal.stripZeros]
    split
    next zero =>
      have tenth : d.digits = d.digits / 10 * Nat.pow 10 1 := by
        show d.digits = d.digits / 10 * 10
        omega
      rw [ih, ofRounded, ofRounded]
      conv_rhs => rw [tenth]
      exact (ofDecimal_shift s (d.digits / 10) 1 d.exponent).symm
    next => rfl

theorem exactDecimal_eq (m : Magnitude) : ∃ n : Nat, one = Nat.pow 2 n ∧
    m.exactDecimal = ⟨m.units * Nat.pow 5 n, -n⟩ := by
  -- The count of places stays a variable, so that no step evaluates the power of five.
  obtain ⟨n, places⟩ : ∃ n : Nat, n = 1074 := ⟨_, rfl⟩
  have unit : one = Nat.pow 2 n := by
    rw [places]
    decide +kernel
  have exponent : (-1074 : Int) = -(n : Int) := by omega
  refine ⟨n, unit, ?_⟩
  rw [exactDecimal, exponent, ← places]

theorem ofRounded_exactDecimal (s : Bool) (m : Magnitude) :
    ofRounded s m.exactDecimal = .finite s m := by
  obtain ⟨n, unit, exact⟩ := exactDecimal_eq m
  have ten : Nat.pow 5 n * one = Nat.pow 10 n := by
    rw [unit]
    exact (Nat.mul_pow 5 2 n).symm
  have up : (-(n : Int)).toNat = 0 := by omega
  have down : (- -(n : Int)).toNat = n := by omega
  rw [exact, ofRounded, ofDecimal_eq_ofUnits, up, down, ← ofUnits_units]
  refine ofUnits_congr s (Nat.pow_pos (by decide)) Nat.one_pos ?_
  calc m.units * Nat.pow 5 n * 1 * one * 1 = m.units * (Nat.pow 5 n * one) := by ring
    _ = m.units * Nat.pow 10 n := by rw [ten]

/-- The shortest decimal reads back. -/
theorem ofRounded_shortest (s : Bool) (m : Magnitude) : ofRounded s m.shortest = .finite s m := by
  rw [shortest, Decimal.normal, ofRounded_stripZeros]
  cases found : ((List.range' 1 17).flatMap m.neighbours).find? m.readsBack with
  | none => exact ofRounded_exactDecimal s m
  | some d =>
    have reads : m.readsBack d = true := List.find?_some found
    exact ofDecimal_sign (of_decide_eq_true reads)

end Double

end TextExpr
