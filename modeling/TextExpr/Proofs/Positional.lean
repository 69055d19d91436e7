import TextExpr.Proofs.Typing

/-!
# The form of number texts

The text of a finite number is a minus or none, digits with no needless zero in front, and where
there is a fraction a point with digits of which the last is no zero. An exponent never stands in
it. The text reads back as the number, so writing what a number text is read as changes nothing
the second time.
-/
namespace TextExpr

namespace Decimal

theorem log2_div_ten {n fuel : Nat} (large : 10 ≤ n) (few : n.log2 ≤ fuel + 1) :
    (n / 10).log2 ≤ fuel := by
  have whole : n ≠ 0 := by omega
  have tenth : n / 10 ≠ 0 := by omega
  have below : n < 2 ^ (fuel + 2) := (Nat.log2_lt whole).mp (by omega)
  have half : n / 10 < 2 ^ (fuel + 1) := by
    rw [Nat.pow_succ] at below
    omega
  have bits := (Nat.log2_lt tenth).mpr half
  omega

/-- With fuel for each bit no zero is left at the end. -/
theorem last_of_stripZeros {fuel : Nat} {d : Decimal} (enough : d.digits.log2 ≤ fuel)
    (nonzero : d.digits ≠ 0) : (stripZeros fuel d).digits % 10 ≠ 0 := by
  induction fuel generalizing d with
  | zero =>
    have single : d.digits < 2 ^ 1 := (Nat.log2_lt nonzero).mp (by omega)
    rw [stripZeros]
    omega
  | succ fuel ih =>
    rw [stripZeros]
    by_cases zero : d.digits % 10 = 0
    · have large : 10 ≤ d.digits := by omega
      rw [if_pos ⟨nonzero, zero⟩]
      apply ih (log2_div_ten large enough)
      show d.digits / 10 ≠ 0
      omega
    · rw [if_neg (fun both => zero both.2)]
      exact zero

theorem stripZeros_of_zero {d : Decimal} (zero : d.digits = 0) (fuel : Nat) :
    stripZeros fuel d = d := by
  cases fuel with
  | zero => rfl
  | succ fuel => rw [stripZeros, if_neg (fun both => both.1 zero)]

theorem normal_last (d : Decimal) : d.normal.digits = 0 ∨ d.normal.digits % 10 ≠ 0 := by
  by_cases zero : d.digits = 0
  · left
    rw [normal, stripZeros_of_zero zero, zero]
  · right
    exact last_of_stripZeros (Nat.le_refl _) zero

end Decimal

theorem Magnitude.shortest_last (m : Magnitude) :
    m.shortest.digits = 0 ∨ m.shortest.digits % 10 ≠ 0 :=
  Decimal.normal_last _

namespace Numeral

theorem getLast?_ofNat (n : Nat) : (ofNat n).getLast? = some (.char (n % 10).digitChar) := by
  rcases Nat.lt_or_ge n 10 with small | large
  · rw [ofNat, Nat.toDigits_of_lt_base small, Nat.mod_eq_of_lt small]
    rfl
  · rw [ofNat, Nat.toDigits_of_base_le (by decide) large, List.map_append]
    exact List.getLast?_concat

/-- A number that is no multiple of ten is written with another digit than zero at the end. -/
theorem getLast?_ofNat_ne_zero {n : Nat} (last : n % 10 ≠ 0) :
    (ofNat n).getLast? ≠ some (.char '0') := by
  have digits : ∀ k < 10, k ≠ 0 → Nat.digitChar k ≠ '0' := by decide
  have other := digits (n % 10) (Nat.mod_lt n (by decide)) last
  rw [getLast?_ofNat]
  intro same
  exact other (Point.char.inj (Option.some.inj same))

end Numeral

/-- Digits with no needless zero in front, and after a point digits of which the last is no zero,
or none. -/
structure IsPlain (whole fraction : Text) : Prop where
  digits : IsDigits whole
  nonempty : whole ≠ []
  canonical : Numeral.Canonical whole
  decimals : IsDigits fraction
  last : fraction.getLast? ≠ some (.char '0')

namespace Double

/-- From as many digits as stand before the point on, there is no point. -/
theorem placePoint_of_long {digits : Text} {point : Int} (some_digits : digits ≠ [])
    (long : digits.length ≤ point) :
    placePoint digits point = digits ++ zeros (point.toNat - digits.length) := by
  have count : 0 < digits.length := List.length_pos_iff.mpr some_digits
  rw [placePoint, if_neg (by omega), if_pos long]

/-- A point inside the digits or before them leaves the last digit the last. -/
theorem getLast?_placePoint {digits : Text} {point : Int} (some_digits : digits ≠ [])
    (inside : point < digits.length) :
    (placePoint digits point).getLast? = digits.getLast? := by
  by_cases before : point ≤ 0
  · rw [placePoint, if_pos before]
    exact List.getLast?_append_of_ne_nil _ some_digits
  · have cut : point.toNat < digits.length := by omega
    have after : digits.drop point.toNat ≠ [] := by simpa using cut
    rw [placePoint, if_neg before, if_neg (by omega), List.append_cons,
      List.getLast?_append_of_ne_nil _ after, List.getLast?_drop, if_neg (by omega)]

theorem not_isDigits_pointed {whole fraction : Text} (some_after : fraction ≠ []) :
    ¬ IsDigits (whole ++ pointed fraction) := by
  intro digits
  have point : .char '.' ∈ whole ++ pointed fraction := by
    rw [pointed, if_neg some_after]
    simp
  cases digits _ point

theorem last_of_spells {n : Nat} {point : Int} {d : Decimal} {whole fraction : Text}
    (last : n % 10 ≠ 0) (spells : Spells (placePoint (Numeral.ofNat n) point) d whole fraction) :
    fraction.getLast? ≠ some (.char '0') := by
  have some_digits := Numeral.ofNat_ne_nil n
  by_cases none_after : fraction = []
  · simp [none_after]
  · have text := spells.text
    by_cases inside : point < (Numeral.ofNat n).length
    · have same : fraction.getLast? = (Numeral.ofNat n).getLast? := by
        rw [← getLast?_placePoint some_digits inside, text, pointed, if_neg none_after,
          List.append_cons, List.getLast?_append_of_ne_nil _ none_after]
      rw [same]
      exact Numeral.getLast?_ofNat_ne_zero last
    · have digits := (Numeral.isDigits_ofNat n).append (isDigits_zeros
        (point.toNat - (Numeral.ofNat n).length))
      rw [← placePoint_of_long some_digits (by omega), text] at digits
      exact absurd digits (not_isDigits_pointed none_after)

theorem plainDigits_isPlain {d : Decimal} (last : d.digits = 0 ∨ d.digits % 10 ≠ 0) :
    ∃ whole fraction, plainDigits d = whole ++ pointed fraction ∧ IsPlain whole fraction := by
  obtain ⟨whole, fraction, spells⟩ := spells_plainDigits d
  rcases last with zero | last
  · have single := spells_zero 0
    refine ⟨[.char '0'], [], ?_, single.digits, single.nonempty, single.canonical,
      single.decimals, by decide⟩
    rw [plainDigits, if_pos zero]
    rfl
  · have nonzero : d.digits ≠ 0 := by omega
    have placed : plainDigits d =
        placePoint (Numeral.ofNat d.digits) ((Numeral.ofNat d.digits).length + d.exponent) := by
      rw [plainDigits, if_neg nonzero]
    have text := spells.text
    rw [placed] at spells
    exact ⟨whole, fraction, text, spells.digits, spells.nonempty, spells.canonical,
      spells.decimals, last_of_spells last spells⟩

/-- What the text of a number may be. The sign stands before a zero as well. -/
def PlainForm (t : Text) : Double → Prop
  | nan => t = Text.ofString "NaN"
  | inf false => t = Text.ofString "inf"
  | inf true => t = Text.ofString "-inf"
  | finite s _ => ∃ whole fraction,
      t = signText s ++ (whole ++ pointed fraction) ∧ IsPlain whole fraction

theorem plainForm_plainText (x : Double) : x.PlainForm x.plainText := by
  cases x with
  | nan => rfl
  | inf s => cases s <;> rfl
  | finite s m =>
    obtain ⟨whole, fraction, text, plain⟩ := plainDigits_isPlain m.shortest_last
    exact ⟨whole, fraction, congrArg (signText s ++ ·) text, plain⟩

end Double

namespace Value

/-- The text of what the text of a value is read as. -/
def renumber (v : Value) : Except EvalError Value := v.asDouble.map ofDouble

/-- The text of a number has the form of number texts and is read as the number, sign of zero and
all. So a number text that is read and written again is not changed by a second time. -/
theorem ofDouble_canonical :
    (∀ x : Double, x.PlainForm (ofDouble x).text ∧ (ofDouble x).asDouble = .ok x) ∧
    ∀ v : Value, (v.renumber >>= renumber) = v.renumber := by
  have reads : ∀ x : Double, (ofDouble x).asDouble = .ok x := by
    intro x
    exact asDouble_eq_ok_iff.mpr (Double.read?_plainText x)
  constructor
  · intro x
    exact ⟨Double.plainForm_plainText x, reads x⟩
  · intro v
    unfold renumber
    cases v.asDouble with
    | error e => rfl
    | ok x =>
      show (ofDouble x).asDouble.map ofDouble = .ok (ofDouble x)
      rw [reads]
      rfl

end Value

end TextExpr
