import Mathlib.Algebra.Order.Field.Rat
import Mathlib.Tactic.FieldSimp
import TextExpr.Proofs.Rounding

/-!
# Exact values

A finite number stands for a rational. Whole numbers of at most 53 bits are numbers themselves:
none of them is rounded, and each has its own magnitude.
-/
namespace TextExpr

open Double (one)

theorem one_eq_pow : ∃ k, one = Nat.pow 2 k := ⟨1074, by decide +kernel⟩

theorem one_pos : 0 < one := by
  obtain ⟨k, power⟩ := one_eq_pow
  rw [power]
  exact Nat.pow_pos Nat.two_pos

namespace Magnitude

/-- What a magnitude stands for, without rounding. -/
def toRat (m : Magnitude) : ℚ := m.units / one

theorem ext_units {m m' : Magnitude} (same : m.units = m'.units) : m = m' := by
  cases m
  cases m'
  cases same
  rfl

theorem spacing_two_pow (j : Nat) : spacing (Nat.pow 2 (j + 52)) = Nat.pow 2 j := by
  have log : (Nat.pow 2 (j + 52)).log2 = j + 52 := Nat.log2_two_pow
  rw [spacing, log, Nat.add_sub_cancel]

theorem spacing_dvd_whole {n : Nat} (small : n ≤ 2 * leadingBit) :
    spacing (n * one) ∣ n * one := by
  obtain ⟨k, power⟩ := one_eq_pow
  rw [power, ← spacing_two_pow]
  exact spacing_mul_dvd small _

theorem whole_lt_overflow {n : Nat} (small : n ≤ 2 * leadingBit) : n * one < overflow := by
  have largest : 2 * leadingBit * one < overflow := by decide +kernel
  exact Nat.lt_of_le_of_lt (Nat.mul_le_mul_right one small) largest

/-- A whole number of at most 53 bits. -/
def whole (n : Nat) (small : n ≤ 2 * leadingBit) : Magnitude :=
  ⟨n * one, spacing_dvd_whole small, whole_lt_overflow small⟩

@[simp] theorem whole_units {n : Nat} (small : n ≤ 2 * leadingBit) :
    (whole n small).units = n * one := rfl

theorem whole_inj {n n' : Nat} {small : n ≤ 2 * leadingBit} {small' : n' ≤ 2 * leadingBit}
    (same : whole n small = whole n' small') : n = n' := by
  have units := congrArg Magnitude.units same
  rw [whole_units, whole_units] at units
  exact Nat.eq_of_mul_eq_mul_right one_pos units

end Magnitude

namespace Double

open Magnitude (whole whole_units)

/-- What a number stands for, if it is finite. -/
def toRat? : Double → Option ℚ
  | nan => none
  | inf _ => none
  | finite s m => some (if s then -m.toRat else m.toRat)

variable {x : Double} {s : Bool} {m : Magnitude} {n : Nat} {i : ℤ}

/-- A decimal that is a whole number is not rounded. -/
theorem ofDecimal_whole (s : Bool) (small : n ≤ 2 * leadingBit) :
    ofDecimal s n 0 = .finite s (whole n small) := by
  rw [ofDecimal_eq_ofUnits, ← ofUnits_units]
  exact ofUnits_congr s (Nat.pow_pos (by decide)) Nat.one_pos (by simp)

theorem toRat?_finite_eq_int_iff :
    (Double.finite s m).toRat? = some (i : ℚ) ↔ signedUnits s m = i * one := by
  have nonzero : (one : ℚ) ≠ 0 := Nat.cast_ne_zero.mpr one_pos.ne'
  have signed : (if s then -m.toRat else m.toRat) = (signedUnits s m : ℚ) / one := by
    unfold signedUnits Magnitude.toRat
    generalize one = unit
    cases s <;> simp [neg_div]
  rw [toRat?, signed, Option.some.injEq, div_eq_iff nonzero]
  exact_mod_cast Iff.rfl

theorem toRat?_whole (s : Bool) (small : n ≤ 2 * leadingBit) :
    (Double.finite s (whole n small)).toRat? = some (Numeral.signed s n : ℚ) := by
  rw [toRat?_finite_eq_int_iff, signedUnits, whole_units]
  generalize one = unit
  cases s <;> simp [Numeral.signed]

/-- What stands for a whole number of at most 53 bits is the number with its sign. -/
theorem eq_whole_of_toRat? (small : i.natAbs ≤ 2 * leadingBit) (exact : x.toRat? = some (i : ℚ)) :
    ∃ s, x = .finite s (whole i.natAbs small) ∧ Numeral.signed s i.natAbs = i := by
  cases x with
  | nan => cases exact
  | inf s => cases exact
  | finite s m =>
    rw [toRat?_finite_eq_int_iff] at exact
    have magnitude : m.units = i.natAbs * one := by
      have size := congrArg Int.natAbs exact
      rw [Int.natAbs_mul, Int.natAbs_natCast] at size
      rw [← size]
      cases s <;> simp [signedUnits]
    have same : m = whole i.natAbs small := by
      apply Magnitude.ext_units
      rw [magnitude, Magnitude.whole_units]
    refine ⟨s, congrArg (Double.finite s) same, ?_⟩
    have positive : (0 : ℤ) < one := Int.natCast_pos.mpr one_pos
    apply Int.eq_of_mul_eq_mul_right positive.ne'
    rw [← exact, signedUnits, magnitude]
    generalize one = unit
    cases s <;> simp [Numeral.signed]

end Double

end TextExpr
