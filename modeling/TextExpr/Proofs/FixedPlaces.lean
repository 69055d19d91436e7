import TextExpr.Proofs.Exact
import TextExpr.Proofs.Failure
import TextExpr.Proofs.Nearest
import TextExpr.Proofs.Typing

/-!
# Rounding to a number of places

A rounded number is written with exactly the places asked for, and what is written is the multiple
of the last place that is nearest to the number. It is the exact value that is rounded, not the
shorter decimal that the number is shown as elsewhere.
-/
namespace TextExpr

open Double (one padded)
open Numeral (value value_append)

/-- A multiple is even exactly if the last of its digits is. -/
theorem Numeral.value_mod_two {t : Text} {p : Point} (last : t.getLast? = some p) :
    value t % 2 = p.digitValue % 2 := by
  obtain ⟨before, rfl⟩ := List.getLast?_eq_some_iff.mp last
  have single : value [p] = p.digitValue := Nat.zero_add _
  have shifted : value before * Nat.pow 10 [p].length = value before * 10 := rfl
  rw [value_append, single, shifted]
  omega

/-- What digits stand for that have a point before the last of them. -/
def pointValue (whole fraction : Text) : ℚ := value whole + value fraction / 10 ^ fraction.length

theorem pointValue_eq (whole fraction : Text) :
    pointValue whole fraction = value (whole ++ fraction) * (1 / 10 ^ fraction.length) := by
  have some_power : (10 : ℚ) ^ fraction.length ≠ 0 := pow_ne_zero _ (by decide)
  have cast : ((Nat.pow 10 fraction.length : Nat) : ℚ) = 10 ^ fraction.length := Nat.cast_pow _ _
  rw [value_append, Nat.cast_add, Nat.cast_mul, cast, pointValue]
  field_simp

/-- The digits of a rounded number: none is needless before the point, and as many as there are
places stand after it. What they stand for is the multiple of the last place nearest to the
rational, and of two multiples as near the one whose last digit is even. -/
structure IsRounded (places : Nat) (r : ℚ) (whole fraction : Text) : Prop where
  digits : IsDigits whole
  nonempty : whole ≠ []
  canonical : Numeral.Canonical whole
  decimals : IsDigits fraction
  count : fraction.length = places
  nearest : ∃ n : Nat, pointValue whole fraction = n * (1 / 10 ^ places) ∧
    IsNearestMultiple (1 / 10 ^ places) r n ∧
    ∀ p, (whole ++ fraction).getLast? = some p → n % 2 = p.digitValue % 2

theorem isNearestMultiple_scaled (m : Magnitude) (places : Nat) :
    IsNearestMultiple (1 / 10 ^ places) m.toRat (m.scaled places) := by
  have some_power : (10 : ℚ) ^ places ≠ 0 := pow_ne_zero _ (by decide)
  have cast : ((Nat.pow 10 places : Nat) : ℚ) = 10 ^ places := Nat.cast_pow _ _
  have exact : ((m.units * Nat.pow 10 places : Nat) : ℚ) / one * (1 / 10 ^ places) = m.toRat := by
    rw [Nat.cast_mul, cast, Magnitude.toRat]
    generalize one = unit
    field_simp
  rw [← exact]
  exact isNearestMultiple_divEven (by positivity) one_pos _

namespace Double

theorem fixedDigits_isRounded (m : Magnitude) (places : Nat) : ∃ whole fraction,
    fixedDigits m places = whole ++ pointed fraction ∧
    IsRounded places m.toRat whole fraction := by
  have text := fixedDigits_eq m places
  have canonical := canonical_take_padded (m.scaled places) places
  have digits := isDigits_padded (m.scaled places) places
  have spelled := value_padded (m.scaled places) places
  have long := lt_length_padded (m.scaled places) places
  generalize padded (m.scaled places) places = d at *
  have count : (d.drop (d.length - places)).length = places := by
    rw [List.length_drop]
    omega
  have together : d.take (d.length - places) ++ d.drop (d.length - places) = d :=
    List.take_append_drop _ _
  refine ⟨_, _, text, digits.take _, ?_, canonical, digits.drop _, count, m.scaled places, ?_,
    isNearestMultiple_scaled m places, ?_⟩
  · intro none_before
    have before := congrArg List.length none_before
    rw [List.length_take, List.length_nil] at before
    omega
  · rw [pointValue_eq, together, spelled, count]
  · intro p last
    rw [together] at last
    rw [← spelled]
    exact Numeral.value_mod_two last

/-- What the text of a rounded number may be. The sign stands before a zero as well. -/
def FixedForm (t : Text) (places : Nat) : Double → Prop
  | nan => t = Text.ofString "NaN"
  | inf false => t = Text.ofString "inf"
  | inf true => t = Text.ofString "-inf"
  | finite s m => ∃ whole fraction,
      t = signText s ++ (whole ++ pointed fraction) ∧ IsRounded places m.toRat whole fraction

theorem fixedForm_fixedText (x : Double) (places : Nat) :
    x.FixedForm (x.fixedText places) places := by
  cases x with
  | nan => rfl
  | inf s => cases s <;> rfl
  | finite s m =>
    obtain ⟨whole, fraction, text, rounded⟩ := fixedDigits_isRounded m places
    exact ⟨whole, fraction, congrArg (signText s ++ ·) text, rounded⟩

end Double

/-- Rounding a number text gives the text of the exact value rounded, with as many places as the
count says, and with none if the count is negative. It writes nothing to the log. -/
theorem callFunction_round_fixed {number places : Value} {x : Double} {d : ℤ}
    (reads : number.asDouble = .ok x) (count : places.asI32 = .ok d) (source : Option Source) :
    ∃ t, callFunction Builtin.roundName [number, places] source = ⟨[], .ok (.ofText t)⟩ ∧
      x.FixedForm t d.toNat := by
  refine ⟨x.fixedText d.toNat, ?_, Double.fixedForm_fixedText x d.toNat⟩
  have rounded : Builtin.round [number, places] = .ok (.ofText (x.fixedText d.toNat)) := by
    simp only [Builtin.round, reads, count]
  exact congrArg (Run.mk []) rounded

/-- An eighth is as near to 0.12 as to 0.13. -/
theorem callFunction_round_fixed_eighth :
    ∃ x, (⟨"-0.125", none⟩ : Value).asDouble = .ok x ∧
      callFunction Builtin.roundName [⟨"-0.125", none⟩, ⟨"+2", none⟩] none =
        ⟨[], .ok ⟨"-0.12", none⟩⟩ ∧
      x.FixedForm "-0.12" 2 := by
  obtain ⟨x, reads⟩ : ∃ x, (⟨"-0.125", none⟩ : Value).asDouble = .ok x :=
    ⟨.ofDecimal true 125 (-3), Value.asDouble_eq_ok_iff.mpr (by decide +kernel)⟩
  have count : (⟨"+2", none⟩ : Value).asI32 = .ok 2 := by rfl
  have text : (callFunction Builtin.roundName [⟨"-0.125", none⟩, ⟨"+2", none⟩] none).outcome =
      .ok ⟨"-0.12", none⟩ := by decide +kernel
  obtain ⟨t, ended, form⟩ := callFunction_round_fixed reads count none
  have made := (congrArg Run.outcome ended).symm.trans text
  have same : t = Text.ofString "-0.12" := congrArg Value.text (Except.ok.inj made)
  subst same
  exact ⟨x, reads, ended, form⟩

end TextExpr
