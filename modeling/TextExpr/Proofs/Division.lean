import TextExpr.Proofs.NearestNumber
import TextExpr.Proofs.Operands

/-!
# Quotients and remainders

A remainder is not rounded: it is on the grids of both operands, however far these are apart, and
has the sign of the dividend. A quotient is rounded once, to the number that is nearest to it.
Operations that trap where a quotient or a remainder is not defined are guarded, so that every two
numbers have both.
-/
namespace TextExpr

namespace Magnitude

variable {a b : Nat}

theorem spacing_dvd_of_le (positive : 0 < a) (held : spacing b ∣ b) (less : a ≤ b) :
    spacing a ∣ b := by
  have bits : a.log2 ≤ b.log2 := by
    rw [Nat.le_log2 (Nat.ne_of_gt (Nat.lt_of_lt_of_le positive less))]
    exact Nat.le_trans (Nat.log2_self_le (Nat.ne_of_gt positive)) less
  exact Nat.dvd_trans (spacing_dvd_spacing bits) held

/-- A remainder is on the grids of the dividend and of the divisor. -/
theorem representable_mod (m n : Magnitude) : Representable (m.units % n.units) := by
  have atMost : m.units % n.units ≤ m.units := Nat.mod_le _ _
  refine ⟨?_, Nat.lt_of_le_of_lt atMost m.representable.2⟩
  rcases Nat.eq_zero_or_pos (m.units % n.units) with none_left | some_left
  · rw [none_left]
    exact Nat.dvd_zero _
  rcases Nat.eq_zero_or_pos n.units with zero | positive
  · rw [zero, Nat.mod_zero]
    exact m.representable.1
  · have onDivisor : spacing (m.units % n.units) ∣ n.units :=
      spacing_dvd_of_le some_left n.representable.1 (Nat.mod_lt _ positive).le
    have onDividend : spacing (m.units % n.units) ∣ m.units :=
      spacing_dvd_of_le some_left m.representable.1 atMost
    exact (Nat.dvd_mod_iff onDivisor).mpr onDividend

/-- What is left of a magnitude after as many whole divisors as it holds. -/
def rem (m n : Magnitude) : Magnitude := ⟨m.units % n.units, representable_mod m n⟩

/-- The dividend is a whole number of divisors and the remainder. -/
theorem toRat_sub_rem (m n : Magnitude) :
    m.toRat - (m.rem n).toRat = (m.units / n.units : Nat) * n.toRat := by
  have split : ((n.units * (m.units / n.units) + m.units % n.units : Nat) : ℚ) = m.units := by
    rw [Nat.div_add_mod]
  push_cast at split
  simp only [toRat, rem, ← split]
  ring

theorem toRat_rem_lt (m : Magnitude) {n : Magnitude} (nonzero : n.units ≠ 0) :
    (m.rem n).toRat < n.toRat := by
  have unit_pos : (0 : ℚ) < Double.one := Nat.cast_pos.mpr one_pos
  have less : m.units % n.units < n.units := Nat.mod_lt _ (Nat.pos_of_ne_zero nonzero)
  exact div_lt_div_of_pos_right (Nat.cast_lt.mpr less) unit_pos

theorem toRat_nonneg (m : Magnitude) : 0 ≤ m.toRat :=
  div_nonneg m.units.cast_nonneg Double.one.cast_nonneg

end Magnitude

namespace Double

open Magnitude (toRat_nonneg)

variable {s t : Bool} {m n : Magnitude} {l r : Double}

def isZero : Double → Bool
  | finite _ m => m.units = 0
  | _ => false

def isInf : Double → Bool
  | inf _ => true
  | _ => false

/-- The sign bit. NaN is taken to have none. -/
def isNegative : Double → Bool
  | nan => false
  | inf s => s
  | finite s _ => s

section Trapping

/-! An operation that traps where its result is not defined, and the same behind guards. -/

inductive Trap where
  | zeroDivisor
  | outsideDomain
  deriving DecidableEq, Repr

/-- Division that traps on a zero divisor. -/
def trappingDiv (l r : Double) : Except Trap Double :=
  if r.isZero then .error .zeroDivisor else .ok (l.div r)

/-- A remainder that traps if the operands are numbers and it is not defined. -/
def trappingRem (l r : Double) : Except Trap Double :=
  if (r.isZero ∨ l.isInf) ∧ l ≠ nan ∧ r ≠ nan then .error .outsideDomain else .ok (l.rem r)

/-- An infinity with the sign of the dividend takes on the sign of a zero divisor by a product. -/
def guardedDiv (l r : Double) : Except Trap Double :=
  if r.isZero then
    .ok (if l.isZero ∨ l = nan then nan else (inf l.isNegative).mul (ofDecimal r.isNegative 1 0))
  else trappingDiv l r

def guardedRem (l r : Double) : Except Trap Double :=
  if r.isZero ∨ l.isInf then .ok nan else trappingRem l r

theorem inf_mul_one (s t : Bool) : (inf s).mul (ofDecimal t 1 0) = inf (s ^^ t) := by
  cases s <;> cases t <;> decide +kernel

theorem div_of_isZero (zero : r.isZero = true) :
    l.div r = if l.isZero ∨ l = nan then nan else inf (l.isNegative ^^ r.isNegative) := by
  cases r with
  | nan | inf => cases zero
  | finite t n =>
    have none_left : n.units = 0 := of_decide_eq_true zero
    cases l <;> simp [div, isZero, isNegative, none_left]

/-- No quotient traps behind the guards. -/
theorem guardedDiv_eq (l r : Double) : guardedDiv l r = .ok (l.div r) := by
  unfold guardedDiv trappingDiv
  split
  next zero => rw [div_of_isZero zero, inf_mul_one]
  next => rfl

theorem rem_of_undefined (undefined : r.isZero = true ∨ l.isInf = true) : l.rem r = nan := by
  rcases undefined with zero | infinite
  · cases r with
    | nan | inf => cases zero
    | finite t n =>
      have none_left : n.units = 0 := of_decide_eq_true zero
      cases l <;> simp [rem, none_left]
  · cases l with
    | nan | finite => cases infinite
    | inf s => cases r <;> rfl

/-- No remainder traps behind the guards. -/
theorem guardedRem_eq (l r : Double) : guardedRem l r = .ok (l.rem r) := by
  unfold guardedRem trappingRem
  split
  next undefined => rw [rem_of_undefined undefined]
  next defined => rw [if_neg fun trapped => defined trapped.1]

end Trapping

section Remainder

/-- The number is what is left of the dividend after a whole number of divisors. -/
structure IsRemainder (l r q : Double) : Prop where
  undefined : q = nan ↔ l = nan ∨ r = nan ∨ r.isZero = true ∨ l.isInf = true
  infinite (a : ℚ) (dividend : l.toRat? = some a) (divisor : r.isInf = true) : q = l
  exact (a b : ℚ) (dividend : l.toRat? = some a) (divisor : r.toRat? = some b) (some_size : b ≠ 0) :
    q.isNegative = l.isNegative ∧
      ∃ c, q.toRat? = some c ∧ |c| < |b| ∧ ∃ k : ℤ, a - c = k * b

theorem toRat?_finite : (finite s m).toRat? = some (signedRat s m.toRat) := rfl

theorem rem_finite (nonzero : n.units ≠ 0) :
    (finite s m).rem (finite t n) = finite s (m.rem n) := by
  rw [rem, if_neg nonzero]
  exact ofUnits_units s (m.rem n)

theorem units_ne_zero (nonzero : signedRat t n.toRat ≠ 0) : n.units ≠ 0 := by
  intro none_left
  have zero : n.toRat = 0 := by rw [Magnitude.toRat, none_left, Nat.cast_zero, zero_div]
  apply nonzero
  rw [zero, signedRat, neg_zero, ite_self]

/-- Signs put before two numbers and before a step turn whole steps into whole steps. -/
theorem exists_multiple_signed {x y step : ℚ} {k : Nat} (multiple : x - y = k * step) :
    ∃ j : ℤ, signedRat s x - signedRat s y = j * signedRat t step := by
  refine ⟨if s = t then k else -k, ?_⟩
  cases s <;> cases t <;> simp [signedRat] <;> linarith

theorem isRemainder_rem (l r : Double) : IsRemainder l r (l.rem r) where
  undefined := by
    cases l with
    | nan => simp [rem]
    | inf s => cases r <;> simp [rem, isInf]
    | finite s m =>
      cases r with
      | nan | inf => simp [rem, isZero, isInf]
      | finite t n =>
        by_cases zero : n.units = 0
        · simp [rem, isZero, zero]
        · simp [rem_finite zero, isZero, isInf, zero]
  infinite := by
    intro a dividend divisor
    cases l with
    | nan | inf => cases dividend
    | finite s m =>
      cases r with
      | nan | finite => cases divisor
      | inf t => rfl
  exact := by
    intro a b dividend divisor some_size
    cases l with
    | nan | inf => cases dividend
    | finite s m =>
      cases r with
      | nan | inf => cases divisor
      | finite t n =>
        cases dividend
        cases divisor
        have nonzero := units_ne_zero some_size
        rw [rem_finite nonzero]
        refine ⟨rfl, _, toRat?_finite, ?_, ?_⟩
        · show |signedRat s _| < |signedRat t _|
          rw [abs_signedRat s (toRat_nonneg _), abs_signedRat t (toRat_nonneg _)]
          exact Magnitude.toRat_rem_lt m nonzero
        · exact exists_multiple_signed (Magnitude.toRat_sub_rem m n)

end Remainder

section Quotient

/-- The number is the exact quotient, rounded once. -/
structure IsQuotient (l r q : Double) : Prop where
  undefined : q = nan ↔ l = nan ∨ r = nan ∨ l.isZero = true ∧ r.isZero = true ∨
    l.isInf = true ∧ r.isInf = true
  sign (number : q ≠ nan) : q.isNegative = (l.isNegative ^^ r.isNegative)
  zeroDivisor (number : l ≠ nan) (nonzero : l.isZero = false) (divisor : r.isZero = true) :
    q = inf (l.isNegative ^^ r.isNegative)
  infinite (number : r ≠ nan) (dividend : l.isInf = true) (divisor : r.isInf = false) :
    q.isInf = true
  vanishing (a : ℚ) (dividend : l.toRat? = some a) (divisor : r.isInf = true) : q.isZero = true
  nearest (a b : ℚ) (dividend : l.toRat? = some a) (divisor : r.toRat? = some b)
    (some_size : b ≠ 0) : q.IsNearest (a / b)

theorem isNegative_ofUnits (s : Bool) (num den : Nat) : (ofUnits s num den).isNegative = s := by
  unfold ofUnits
  split <;> rfl

theorem ofUnits_ne_nan (s : Bool) (num den : Nat) : ofUnits s num den ≠ nan := by
  unfold ofUnits
  split <;> exact Double.noConfusion

theorem div_finite (nonzero : n.units ≠ 0) :
    (finite s m).div (finite t n) = ofUnits (s ^^ t) (m.units * one) n.units := by
  rw [div, if_neg nonzero]

theorem signedRat_div (s t : Bool) (m n : Magnitude) :
    signedRat s m.toRat / signedRat t n.toRat =
      signedRat (s ^^ t) ((m.units * one : Nat) / n.units / one) := by
  have unit_ne : (one : ℚ) ≠ 0 := Nat.cast_ne_zero.mpr one_pos.ne'
  have exact : m.toRat / n.toRat = (m.units * one : Nat) / n.units / one := by
    rw [Magnitude.toRat, Magnitude.toRat, Nat.cast_mul, div_div_div_cancel_right₀ unit_ne,
      div_right_comm, mul_div_cancel_right₀ _ unit_ne]
  rw [← exact]
  cases s <;> cases t <;> simp [signedRat, neg_div, div_neg]

theorem isQuotient_div (l r : Double) : IsQuotient l r (l.div r) where
  undefined := by
    cases l with
    | nan => simp [div]
    | inf s => cases r <;> simp [div, isZero, isInf]
    | finite s m =>
      cases r with
      | nan | inf => simp [div, isZero, isInf, Double.zero]
      | finite t n =>
        by_cases zero : n.units = 0
        · by_cases none_left : m.units = 0 <;> simp [div, isZero, isInf, zero, none_left]
        · simp [div_finite zero, ofUnits_ne_nan, isZero, isInf, zero]
  sign := by
    intro number
    cases l with
    | nan => exact absurd rfl number
    | inf s =>
      cases r with
      | nan | inf => exact absurd rfl number
      | finite t n => rfl
    | finite s m =>
      cases r with
      | nan => exact absurd rfl number
      | inf t => rfl
      | finite t n =>
        by_cases zero : n.units = 0
        · by_cases none_left : m.units = 0 <;> simp [div, zero, none_left, isNegative] at number ⊢
        · rw [div_finite zero, isNegative_ofUnits]
          rfl
  zeroDivisor := by
    intro number nonzero divisor
    rw [div_of_isZero divisor, if_neg]
    simp [number, nonzero]
  infinite := by
    intro number dividend divisor
    cases l with
    | nan | finite => cases dividend
    | inf s =>
      cases r with
      | nan => exact absurd rfl number
      | inf t => cases divisor
      | finite t n => rfl
  vanishing := by
    intro a dividend divisor
    cases l with
    | nan | inf => cases dividend
    | finite s m =>
      cases r with
      | nan | finite => cases divisor
      | inf t => rfl
  nearest := by
    intro a b dividend divisor some_size
    cases l with
    | nan | inf => cases dividend
    | finite s m =>
      cases r with
      | nan | inf => cases divisor
      | finite t n =>
        cases dividend
        cases divisor
        have nonzero := units_ne_zero some_size
        have quotient := signedRat_div s t m n
        simp only [signedRat] at quotient ⊢
        rw [div_finite nonzero, quotient]
        exact isNearest_ofUnits _ _ (Nat.pos_of_ne_zero nonzero)

end Quotient

end Double

open Double (guardedRem guardedRem_eq guardedDiv guardedDiv_eq IsRemainder IsQuotient)

/-- Every two numbers have a remainder and a quotient: behind the guards neither operation traps.
The remainder is exact and the quotient is rounded once, and operands that are read as the two
numbers end in the texts of both. -/
theorem Expr.evaluate_division (env : Env) (source : Option Source) (settings : Settings)
    (s : Span) (l r : Double) :
    (guardedRem l r = .ok (l.rem r) ∧ IsRemainder l r (l.rem r)) ∧
    (guardedDiv l r = .ok (l.div r) ∧ IsQuotient l r (l.div r)) ∧
    ∀ (e e' : Expr) (v w : Value), (evaluate e env source settings).outcome = .ok v →
      (evaluate e' env source settings).outcome = .ok w →
      v.asDouble = .ok l → w.asDouble = .ok r →
      (evaluate (.bin s .mod e e') env source settings).outcome =
        .ok ⟨(l.rem r).plainText, some s⟩ ∧
      (evaluate (.bin s .div e e') env source settings).outcome =
        .ok ⟨(l.div r).plainText, some s⟩ := by
  refine ⟨⟨guardedRem_eq l r, Double.isRemainder_rem l r⟩,
    ⟨guardedDiv_eq l r, Double.isQuotient_div l r⟩, ?_⟩
  intro e e' v w left right readsLeft readsRight
  have remainder : applyBinary .mod v w = .ok (.ofDouble (l.rem r)) :=
    readBoth_taken readsLeft readsRight _
  have quotient : applyBinary .div v w = .ok (.ofDouble (l.div r)) :=
    readBoth_taken readsLeft readsRight _
  exact ⟨outcome_bin left right remainder, outcome_bin left right quotient⟩

/-- The operands are so far apart that the quotient is rounded to a multiple of 2 ^ 22, and the
remainder is exact. -/
theorem Expr.evaluate_division_apart :
    let e : Expr := .lit ⟨0, 5, 0⟩ ⟨"-1e22", none⟩
    let e' : Expr := .lit ⟨8, 11, 0⟩ ⟨"0.3", none⟩
    let v : Value := ⟨"-1e22", some ⟨0, 5, 0⟩⟩
    let w : Value := ⟨"0.3", some ⟨8, 11, 0⟩⟩
    let l : Double := .ofDecimal true 1 22
    let r : Double := .ofDecimal false 3 (-1)
    let s : Span := ⟨0, 11, 0⟩
    (evaluate e .empty none {}).outcome = .ok v ∧ (evaluate e' .empty none {}).outcome = .ok w ∧
    v.asDouble = .ok l ∧ w.asDouble = .ok r ∧
    (evaluate (.bin s .mod e e') .empty none {}).outcome =
      .ok ⟨"-0.14154171886050337", some s⟩ ∧ IsRemainder l r (l.rem r) ∧
    (evaluate (.bin s .div e e') .empty none {}).outcome =
      .ok ⟨"-33333333333333336000000", some s⟩ ∧ IsQuotient l r (l.div r) := by
  intro e e' v w l r s
  have readsLeft : v.asDouble = .ok l := Value.asDouble_eq_ok_iff.mpr (by decide +kernel)
  have readsRight : w.asDouble = .ok r := Value.asDouble_eq_ok_iff.mpr (by decide +kernel)
  have remainder : (l.rem r).plainText = "-0.14154171886050337" := by decide +kernel
  have quotient : (l.div r).plainText = "-33333333333333336000000" := by decide +kernel
  obtain ⟨⟨_, isRemainder⟩, ⟨_, isQuotient⟩, evaluated⟩ :=
    Expr.evaluate_division .empty none {} s l r
  obtain ⟨onMod, onDiv⟩ := evaluated e e' v w outcome_lit outcome_lit readsLeft readsRight
  rw [remainder] at onMod
  rw [quotient] at onDiv
  exact ⟨outcome_lit, outcome_lit, readsLeft, readsRight, onMod, isRemainder, onDiv, isQuotient⟩

end TextExpr
