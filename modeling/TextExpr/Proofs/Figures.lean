import TextExpr.Json.Reader
import TextExpr.Proofs.Parts
import TextExpr.Proofs.Spelling

/-!
# Numbers inside documents

The text of a number ends where no digit, no point and no mark of an exponent follows. A whole
number is written without a point and without an exponent, any other number with one of them, and
so each is read as the number it was.
-/
namespace TextExpr.Json

open Double (signText zeros exponentText placePoint scientificDigits)
open Numeral (value)

/-- The text does not go on with a number that stands before it. -/
def EndsNumber (t : Text) : Prop :=
  ∀ p ∈ t.head?, p.isDigit = false ∧ p ≠ .char '.' ∧ p ≠ .char 'e' ∧ p ≠ .char 'E'

variable {whole fraction u left rest : Text} {s : Bool} {d : Decimal}

theorem endsNumber_nil : EndsNumber [] := fun _ member => by cases member

theorem EndsNumber.noDigitFirst (ends : EndsNumber u) : NoDigitFirst u :=
  fun p first => (ends p first).1

theorem readWhole_append (digits : IsDigits whole) (nonempty : whole ≠ [])
    (canonical : Numeral.Canonical whole) (next : NoDigitFirst u) :
    readWhole (whole ++ u) = (whole, u) := by
  rcases canonical with rfl | leading
  · rfl
  · cases whole with
    | nil => exact absurd rfl nonempty
    | cons p w =>
      have notZero : p ≠ .char '0' := fun zero => leading (congrArg some zero)
      have all := digits.span_append next
      unfold readWhole
      split
      next same => exact absurd (List.cons.inj same).1 notZero
      next => exact all

theorem readFraction_append (decimals : IsDigits fraction) (next : NoDigitFirst u)
    (noPoint : u.head? ≠ some (.char '.')) :
    readFraction (pointed fraction ++ u) = (fraction, u) := by
  unfold pointed
  split
  next none_after =>
    rw [none_after, List.nil_append, readFraction]
    rintro rest rfl
    exact noPoint rfl
  next some_after =>
    have all := decimals.span_append next
    have marked : fraction.isEmpty = false := by simpa using some_after
    rw [List.cons_append, readFraction, all]
    simp [marked]

theorem readExponent_of_ends (ends : EndsNumber u) : readExponent u = (none, u) := by
  cases u with
  | nil => rfl
  | cons p u =>
    obtain ⟨_, _, lower, upper⟩ := ends p rfl
    cases p with
    | surrogate n => rfl
    | char c =>
      have noMark : ¬ (c = 'e' ∨ c = 'E') := by
        rintro (rfl | rfl)
        · exact lower rfl
        · exact upper rfl
      rw [readExponent, if_neg noMark]

theorem signed_natAbs (i : Int) : Numeral.signed (decide (i < 0)) i.natAbs = i := by
  by_cases negative : i < 0
  · simp only [negative, decide_true, Numeral.signed, if_true]
    omega
  · simp only [negative, decide_false, Numeral.signed, Bool.false_eq_true, if_false]
    omega

theorem readExponent_exponentText (e : Int) (next : NoDigitFirst u) :
    readExponent (exponentText e ++ u) = (some e, u) := by
  obtain ⟨k, width⟩ : ∃ k, k = 2 - (Numeral.ofNat e.natAbs).length := ⟨_, rfl⟩
  have digits : IsDigits (zeros k ++ Numeral.ofNat e.natAbs) :=
    (isDigits_zeros k).append (Numeral.isDigits_ofNat _)
  have spelled : value (zeros k ++ Numeral.ofNat e.natAbs) = e.natAbs := by
    rw [Numeral.value_zeros_append, Numeral.value_ofNat]
  have nonempty : (zeros k ++ Numeral.ofNat e.natAbs).isEmpty = false := by
    simp [Numeral.ofNat_ne_nil]
  have all := digits.span_append next
  have written : exponentText e ++ u = .char 'e' :: .char (if e < 0 then '-' else '+') ::
      (zeros k ++ Numeral.ofNat e.natAbs ++ u) := by
    simp [exponentText, width]
  have sign : ∀ t, Numeral.splitSign (.char (if e < 0 then '-' else '+') :: t) =
      (decide (e < 0), t) := by
    intro t
    by_cases negative : e < 0
    · simp [negative, Numeral.splitSign]
    · simp [negative, Numeral.splitSign]
  rw [written, readExponent, if_pos (Or.inl rfl)]
  simp only [sign, all, nonempty, spelled, signed_natAbs]
  rfl

/-- The steps of reading a number, once its parts are known. -/
theorem readNumber_of_parts {exponent : Option Int} (digits : IsDigits whole)
    (nonempty : whole ≠ []) (wholeRead : readWhole (whole ++ u) = (whole, u))
    (fractionRead : readFraction u = (fraction, left))
    (exponentRead : readExponent left = (exponent, rest)) :
    readNumber (signText s ++ (whole ++ u)) =
      if fraction.isEmpty && exponent.isNone then
        match Numeral.ofDigits? whole with
        | .ok n => .ok (.int (Numeral.signed s n), rest)
        | .error count => .error (.tooManyDigits count)
      else .ok (.float (.ofDecimal s (value (whole ++ fraction))
        (exponent.getD 0 - fraction.length)), rest) := by
  cases s with
  | true =>
    have known : whole.isEmpty = false := by simpa using nonempty
    simp only [signText, if_true, List.singleton_append, readNumber, wholeRead, fractionRead,
      exponentRead, known]
    rfl
  | false =>
    cases whole with
    | nil => exact absurd rfl nonempty
    | cons p w =>
      have unsigned : p ≠ .char '-' := digits.head_ne (by decide)
      have plain : signText false ++ (p :: w ++ u) = p :: (w ++ u) := rfl
      rw [List.cons_append] at wholeRead
      rw [plain, readNumber]
      · simp only [wholeRead, fractionRead, exponentRead]
        rfl
      · intro rest same
        exact unsigned (List.cons.inj same).1

/-- Digits alone are a whole number. -/
theorem readNumber_digits (digits : IsDigits whole) (nonempty : whole ≠ [])
    (canonical : Numeral.Canonical whole) (short : whole.length ≤ Numeral.digitLimit)
    (ends : EndsNumber rest) :
    readNumber (signText s ++ (whole ++ rest)) =
      .ok (.int (Numeral.signed s (value whole)), rest) := by
  have wholeRead := readWhole_append digits nonempty canonical ends.noDigitFirst
  have noPoint : rest.head? ≠ some (.char '.') := fun point => (ends _ point).2.1 rfl
  have none_after : IsDigits [] := by simp [IsDigits]
  have fractionRead : readFraction rest = ([], rest) :=
    readFraction_append none_after ends.noDigitFirst noPoint
  rw [readNumber_of_parts digits nonempty wholeRead fractionRead (readExponent_of_ends ends)]
  simp [Numeral.ofDigits?, short]

/-- With a fraction or an exponent it is any number, the one that the decimal is rounded to. -/
theorem readNumber_spelled {t : Text} {exponent : Option Int} (spells : Spells t d whole fraction)
    (next : NoDigitFirst u) (noPoint : u.head? ≠ some (.char '.'))
    (exponentRead : readExponent u = (exponent, rest))
    (marked : fraction ≠ [] ∨ exponent.isSome = true) :
    readNumber (signText s ++ (t ++ u)) =
      .ok (.float (.ofDecimal s d.digits (d.exponent + exponent.getD 0)), rest) := by
  have pointedNext : NoDigitFirst (pointed fraction ++ u) := by
    unfold pointed
    split
    · exact next
    · exact noDigitFirst_cons (by decide)
  have wholeRead := readWhole_append spells.digits spells.nonempty spells.canonical pointedNext
  have fractionRead := readFraction_append spells.decimals next noPoint
  have float : (fraction.isEmpty && exponent.isNone) = false := by
    rcases marked with some_after | some_exponent
    · simp [some_after]
    · obtain ⟨e, rfl⟩ := Option.isSome_iff_exists.mp some_exponent
      simp
  rw [spells.text, List.append_assoc, readNumber_of_parts spells.digits spells.nonempty wholeRead
    fractionRead exponentRead, float, ← spells.number]
  rfl

theorem ofInt_eq (i : Int) :
    Numeral.ofInt i = signText (decide (i < 0)) ++ Numeral.ofNat i.natAbs := by
  cases i with
  | ofNat n => rfl
  | negSucc n =>
    have negative : decide (Int.negSucc n < 0) = true := decide_eq_true (Int.negSucc_lt_zero n)
    rw [negative]
    rfl

theorem readNumber_ofInt {i : Int} (short : i.natAbs < Nat.pow 10 Numeral.digitLimit)
    (ends : EndsNumber rest) : readNumber (Numeral.ofInt i ++ rest) = .ok (.int i, rest) := by
  have few : (Numeral.ofNat i.natAbs).length ≤ Numeral.digitLimit :=
    (Numeral.length_ofNat_le_iff (by decide)).mpr short
  rw [ofInt_eq, List.append_assoc, readNumber_digits (Numeral.isDigits_ofNat _)
    (Numeral.ofNat_ne_nil _) (Numeral.canonical_ofNat _) few ends, Numeral.value_ofNat,
    signed_natAbs]

theorem contains_point_iff {t : Text} (spells : Spells t d whole fraction) :
    t.contains (.char '.') = true ↔ fraction ≠ [] := by
  have noPoint : ∀ {u : Text}, IsDigits u → .char '.' ∉ u := by
    intro u digits point
    cases digits _ point
  rw [List.contains_iff_mem, spells.text, List.mem_append]
  constructor
  · rintro (inWhole | inFraction) none_after
    · exact noPoint spells.digits inWhole
    · rw [none_after] at inFraction
      cases inFraction
  · intro some_after
    rw [pointed, if_neg some_after]
    exact Or.inr List.mem_cons_self

/-- A whole number with a point and a zero after it. -/
theorem spells_append_zero {t : Text} (spells : Spells t d whole []) :
    Spells (t ++ Text.ofString ".0") d whole [.char '0'] where
  text := by
    rw [spells.text, pointed, if_pos rfl, List.append_nil]
    rfl
  digits := spells.digits
  nonempty := spells.nonempty
  canonical := spells.canonical
  decimals := isDigits_zeros 1
  number s e := by
    have tenfold : value (whole ++ [.char '0']) = value whole * Nat.pow 10 1 :=
      Numeral.value_append_zeros whole 1
    have number := spells.number s e
    simp only [List.append_nil, List.length_nil, Int.ofNat_zero, sub_zero] at number
    rw [tenfold, Double.ofDecimal_shift, ← number]
    congr 1
    simp

theorem spells_zeroText (e : Int) : Spells (Text.ofString "0.0") ⟨0, e⟩ [.char '0'] [.char '0'] :=
  spells_append_zero (Double.spells_zero e)

theorem mantissa_eq (n : Nat) :
    (if (Numeral.ofNat n).length ≤ 1 then Numeral.ofNat n else placePoint (Numeral.ofNat n) 1) =
      placePoint (Numeral.ofNat n) 1 := by
  have count := Numeral.length_ofNat_pos n
  split
  next single =>
    have inside : ((Numeral.ofNat n).length : Int) ≤ 1 := by omega
    have filled : (1 : Int).toNat - (Numeral.ofNat n).length = 0 := by omega
    rw [placePoint, if_neg (by decide), if_pos inside, filled]
    exact (List.append_nil _).symm
  next => rfl

/-- The text of a number in a document reads as the number. -/
theorem readNumber_scientificDigits (s : Bool) (d : Decimal) (ends : EndsNumber rest) :
    readNumber (signText s ++ (scientificDigits d ++ rest)) =
      .ok (.float (Double.ofRounded s d), rest) := by
  have noPoint : rest.head? ≠ some (.char '.') := fun point => (ends _ point).2.1 rfl
  -- a fraction is enough, and then no exponent follows
  have fractional : ∀ {t whole fraction}, Spells t d whole fraction → fraction ≠ [] →
      readNumber (signText s ++ (t ++ rest)) = .ok (.float (Double.ofRounded s d), rest) := by
    intro t whole fraction spells some_after
    rw [readNumber_spelled spells ends.noDigitFirst noPoint (readExponent_of_ends ends)
      (Or.inl some_after)]
    simp [Double.ofRounded]
  unfold scientificDigits
  dsimp only
  split
  next zero =>
    obtain ⟨digits, exponent⟩ := d
    cases zero
    exact fractional (spells_zeroText exponent) (by decide)
  next nonzero =>
    have positive : 0 < d.digits := Nat.pos_of_ne_zero nonzero
    split
    next near =>
      obtain ⟨whole, fraction, spells⟩ := Double.spells_placePoint positive
        ((Numeral.ofNat d.digits).length + d.exponent)
      rw [add_sub_cancel_left] at spells
      split
      next point => exact fractional spells ((contains_point_iff spells).mp point)
      next whole_only =>
        have none_after : fraction = [] := by
          by_contra some_after
          exact whole_only ((contains_point_iff spells).mpr some_after)
        subst none_after
        exact fractional (spells_append_zero spells) (by decide)
    next far =>
      rw [mantissa_eq, List.append_assoc]
      obtain ⟨whole, fraction, spells⟩ := Double.spells_placePoint positive 1
      have next : NoDigitFirst
          (exponentText ((Numeral.ofNat d.digits).length + d.exponent - 1) ++ rest) :=
        noDigitFirst_cons (by decide)
      rw [readNumber_spelled spells next (by simp [exponentText])
        (readExponent_exponentText _ ends.noDigitFirst) (Or.inr rfl), Double.ofRounded]
      congr 4
      simp only [Option.getD_some]
      omega

/-- The text of a number in a document, with the number. Zeros before the first digit, which no
document has, make no difference here. -/
inductive IsNumeral : Json → Text → Prop where
  | int {s : Bool} {w : Text} (digits : IsDigits w) (nonempty : w ≠ [])
      (few : w.length ≤ Numeral.digitLimit) :
      IsNumeral (.int (Numeral.signed s (value w))) (signText s ++ w)
  | float {s : Bool} {w f m x : Text} {e : Int} (mantissa : IsMantissa w f m) (nonempty : w ≠ [])
      (exponent : IsExponent e x) :
      IsNumeral (.float (.ofDecimal s (value (w ++ f)) (e - f.length))) (signText s ++ (m ++ x))

/-- A numeral begins with digits, after a minus or without one. -/
theorem IsNumeral.exists_digits {t : Text} {y : Json} (numeral : IsNumeral y t) :
    ∃ s w after, t = signText s ++ (w ++ after) ∧ IsDigits w ∧ w ≠ [] := by
  cases numeral with
  | int digits nonempty => exact ⟨_, _, [], by rw [List.append_nil], digits, nonempty⟩
  | float mantissa nonempty =>
    cases mantissa with
    | whole digits => exact ⟨_, _, _, rfl, digits, nonempty⟩
    | pointed digits => exact ⟨_, _, _, by rw [List.append_assoc], digits, nonempty⟩
    | bare => exact absurd rfl nonempty

section Parts

variable {t w f after : Text} {e : Option Int} {y : Json}

theorem exists_digits_of_readWhole (t : Text) :
    ∃ w rest, readWhole t = (w, rest) ∧ IsDigits w ∧ t = w ++ rest := by
  unfold readWhole
  split
  · exact ⟨_, _, rfl, isDigits_zeros 1, rfl⟩
  · obtain ⟨w, rest, split, parts, digits⟩ := span_isDigit t
    exact ⟨w, rest, split, digits, parts⟩

theorem exists_mantissa_of_readFraction (digits : IsDigits w) (nonempty : w ≠ [])
    (fraction : readFraction after = (f, rest)) :
    ∃ m, IsMantissa w f m ∧ w ++ after = m ++ rest ∧ (f = [] → m = w) := by
  unfold readFraction at fraction
  split at fraction
  next behind =>
    obtain ⟨d, stops, split, rfl, decimals⟩ := span_isDigit behind
    simp only [split] at fraction
    split at fraction
    next =>
      cases fraction
      exact ⟨w, .whole digits nonempty, rfl, fun _ => rfl⟩
    next some_digit =>
      cases fraction
      refine ⟨_, .pointed digits nonempty decimals, by simp, ?_⟩
      rintro rfl
      exact absurd rfl some_digit
  next =>
    cases fraction
    exact ⟨w, .whole digits nonempty, rfl, fun _ => rfl⟩

theorem exists_exponent_of_readExponent (exponent : readExponent t = (e, rest)) :
    ∃ x, IsExponent (e.getD 0) x ∧ t = x ++ rest ∧ (e = none → x = []) := by
  unfold readExponent at exponent
  split at exponent
  next c behind =>
    by_cases mark : c = 'e' ∨ c = 'E'
    · rw [if_pos mark] at exponent
      obtain ⟨sign, signs, parts⟩ := isSign_splitSign behind
      obtain ⟨d, stops, split, unsigned, digits⟩ := span_isDigit (Numeral.splitSign behind).2
      simp only [split] at exponent
      split at exponent
      next =>
        cases exponent
        exact ⟨[], .none, rfl, fun _ => rfl⟩
      next some_digit =>
        cases exponent
        have nonempty : d ≠ [] := by simpa using some_digit
        refine ⟨_, .marked mark signs digits nonempty, ?_, fun missing => by cases missing⟩
        rw [List.cons_append, List.append_assoc, ← unsigned, ← parts]
    · rw [if_neg mark] at exponent
      cases exponent
      exact ⟨[], .none, rfl, fun _ => rfl⟩
  next =>
    cases exponent
    exact ⟨[], .none, rfl, fun _ => rfl⟩

/-- What is taken from the front of a text as a number is the text of that number. -/
theorem isNumeral_of_readNumber (read : readNumber t = .ok (y, left)) :
    ∃ u, IsNumeral y u ∧ t = u ++ left := by
  unfold readNumber at read
  split at read
  next s unsigned signs =>
    have signed_text : t = signText s ++ unsigned := by
      split at signs <;> cases signs <;> rfl
    obtain ⟨w, afterWhole, whole, digits, rfl⟩ := exists_digits_of_readWhole unsigned
    cases fraction : readFraction afterWhole with
    | mk f afterFraction =>
      cases exponent : readExponent afterFraction with
      | mk e rest =>
        simp only [whole, fraction, exponent] at read
        by_cases empty : w = []
        · subst empty
          cases read
        have some_digit : w.isEmpty = false := by simpa using empty
        obtain ⟨m, mantissa, parts, unpointed⟩ :=
          exists_mantissa_of_readFraction digits empty fraction
        obtain ⟨x, exponents, rfl, unmarked⟩ := exists_exponent_of_readExponent exponent
        rw [parts] at signed_text
        simp only [some_digit, Bool.false_eq_true, if_false] at read
        split at read
        next plain =>
          obtain ⟨no_fraction, no_exponent⟩ : f = [] ∧ e = none := by simpa using plain
          rw [unpointed no_fraction, unmarked no_exponent] at signed_text
          split at read
          next n converted =>
            obtain ⟨few, rfl⟩ := Numeral.ofDigits?_eq_ok_iff.mp converted
            cases read
            exact ⟨_, .int digits empty few, by rw [signed_text]; simp⟩
          next => cases read
        next =>
          cases read
          exact ⟨_, .float mantissa empty exponents, by rw [signed_text]; simp⟩

end Parts

end TextExpr.Json
