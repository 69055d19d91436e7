import TextExpr.Proofs.NumberText
import TextExpr.Proofs.Rounding

/-!
# Number texts read back

The texts of numbers are digits with a point among them, or none, and perhaps an exponent. Each of
them spells a decimal, and is read as the number that the decimal is rounded to. So the text of a
computed number reads back as the number itself.
-/
namespace TextExpr

/-- A fraction with its point, if there is one. -/
def pointed (fraction : Text) : Text := if fraction = [] then [] else .char '.' :: fraction

open Numeral (value value_append value_zeros value_ofNat isDigits_ofNat)

/-- The text is digits, a point among them or none, and with any exponent it is rounded as the
decimal is. -/
structure Spells (t : Text) (d : Decimal) (whole fraction : Text) : Prop where
  text : t = whole ++ pointed fraction
  digits : IsDigits whole
  nonempty : whole ≠ []
  canonical : Numeral.Canonical whole
  decimals : IsDigits fraction
  number : ∀ s e, Double.ofDecimal s (value (whole ++ fraction)) (e - fraction.length) =
    Double.ofDecimal s d.digits (d.exponent + e)

namespace Double

/-- Zero digits are zero with any exponent. -/
theorem ofDecimal_zero (s : Bool) (e e' : Int) : ofDecimal s 0 e = ofDecimal s 0 e' := rfl

theorem spells_zero (e : Int) : Spells [.char '0'] ⟨0, e⟩ [.char '0'] [] where
  text := rfl
  digits := by simp [IsDigits, Point.isDigit]
  nonempty := by decide
  canonical := Or.inl rfl
  decimals := by simp [IsDigits]
  number := fun s _ => ofDecimal_zero s _ _

theorem spells_placePoint {n : Nat} (positive : 0 < n) (point : Int) :
    ∃ whole fraction, Spells (placePoint (Numeral.ofNat n) point)
      ⟨n, point - (Numeral.ofNat n).length⟩ whole fraction := by
  have digits := isDigits_ofNat n
  have spelled := value_ofNat n
  have leading := Numeral.head?_ofNat_ne_zero positive
  have count := Numeral.length_ofNat_pos n
  unfold placePoint
  generalize Numeral.ofNat n = d at *
  split
  next below =>
    refine ⟨[.char '0'], zeros (-point).toNat ++ d, ?_, isDigits_zeros 1, by decide, Or.inl rfl,
      (isDigits_zeros _).append digits, fun s e => ?_⟩
    · have nonempty : zeros (-point).toNat ++ d ≠ [] := by
        simp [List.length_pos_iff.mp count]
      simp [pointed, nonempty]
    · have read : value ([.char '0'] ++ (zeros (-point).toNat ++ d)) = n := by
        exact (Numeral.value_zeros_append 1 _).trans
          ((Numeral.value_zeros_append _ _).trans spelled)
      rw [read]
      congr 1
      simp only [zeros, List.length_append, List.length_replicate]
      omega
  split
  next above =>
    refine ⟨d ++ zeros (point.toNat - d.length), [], by simp [pointed],
      digits.append (isDigits_zeros _), by simp [List.length_pos_iff.mp count], Or.inr ?_,
      by simp [IsDigits], fun s e => ?_⟩
    · rwa [List.head?_append_of_ne_nil _ (List.length_pos_iff.mp count)]
    · rw [List.append_nil, Numeral.value_append_zeros, spelled, ofDecimal_shift]
      congr 1
      simp only [List.length_nil]
      omega
  next inside outside =>
    have nonempty : d.take point.toNat ≠ [] := by
      simp only [ne_eq, List.take_eq_nil_iff, not_or]
      exact ⟨by omega, List.length_pos_iff.mp count⟩
    refine ⟨d.take point.toNat, d.drop point.toNat, ?_, digits.take _, nonempty, Or.inr ?_,
      digits.drop _, fun s e => ?_⟩
    · have fraction : d.drop point.toNat ≠ [] := by
        simp only [ne_eq, List.drop_eq_nil_iff]
        omega
      simp [pointed, fraction]
    · rwa [List.head?_take, if_neg (by omega)]
    · rw [List.take_append_drop, spelled]
      congr 1
      simp only [List.length_drop]
      omega

theorem spells_plainDigits (d : Decimal) :
    ∃ whole fraction, Spells (plainDigits d) d whole fraction := by
  unfold plainDigits
  split
  next zero =>
    obtain ⟨digits, exponent⟩ := d
    cases zero
    exact ⟨_, _, spells_zero exponent⟩
  next nonzero =>
    obtain ⟨whole, fraction, spells⟩ := spells_placePoint (Nat.pos_of_ne_zero nonzero)
      ((Numeral.ofNat d.digits).length + d.exponent)
    rw [add_sub_cancel_left] at spells
    exact ⟨whole, fraction, spells⟩

/-- The digits of a number with zeros before them, so that one stands before all the places. -/
def padded (n places : Nat) : Text :=
  zeros (places + 1 - (Numeral.ofNat n).length) ++ Numeral.ofNat n

theorem isDigits_padded (n places : Nat) : IsDigits (padded n places) :=
  (isDigits_zeros _).append (isDigits_ofNat n)

theorem value_padded (n places : Nat) : value (padded n places) = n := by
  rw [padded, Numeral.value_zeros_append, value_ofNat]

theorem lt_length_padded (n places : Nat) : places < (padded n places).length := by
  simp only [padded, zeros, List.length_append, List.length_replicate]
  omega

/-- Before the places stand the digits of the number itself, or a single zero. -/
theorem canonical_take_padded (n places : Nat) :
    Numeral.Canonical ((padded n places).take ((padded n places).length - places)) := by
  have count := Numeral.length_ofNat_pos n
  unfold padded
  rcases Nat.lt_or_ge places (Numeral.ofNat n).length with long | short
  · have unpadded : places + 1 - (Numeral.ofNat n).length = 0 := by omega
    rw [unpadded, zeros, List.replicate_zero, List.nil_append]
    rcases Numeral.canonical_ofNat n with single | leading
    · rw [single] at long ⊢
      have none_after : places = 0 := by simpa using long
      rw [none_after]
      exact Or.inl rfl
    · refine Or.inr ?_
      rwa [List.head?_take, if_neg (by omega)]
  · obtain ⟨k, padding⟩ : ∃ k, places + 1 - (Numeral.ofNat n).length = k + 1 :=
      ⟨places - (Numeral.ofNat n).length, by omega⟩
    have first : (zeros (k + 1) ++ Numeral.ofNat n).length - places = 1 := by
      simp only [zeros, List.length_append, List.length_replicate]
      omega
    rw [padding, first]
    exact Or.inl rfl

theorem fixedDigits_eq (m : Magnitude) (places : Nat) :
    let digits := padded (m.scaled places) places
    fixedDigits m places =
      digits.take (digits.length - places) ++ pointed (digits.drop (digits.length - places)) := by
  intro digits
  have long : places < digits.length := lt_length_padded _ _
  show (if places = 0 then digits else _) = _
  split
  next integral => simp [pointed, integral]
  next =>
    have fraction : digits.drop (digits.length - places) ≠ [] := by
      simp only [ne_eq, List.drop_eq_nil_iff]
      omega
    rw [pointed, if_neg fraction]
    rfl

theorem spells_fixedDigits (m : Magnitude) (places : Nat) :
    ∃ whole fraction,
      Spells (fixedDigits m places) ⟨m.scaled places, -places⟩ whole fraction := by
  have text := fixedDigits_eq m places
  have canonical := canonical_take_padded (m.scaled places) places
  have digits := isDigits_padded (m.scaled places) places
  have spelled := value_padded (m.scaled places) places
  have long := lt_length_padded (m.scaled places) places
  generalize padded (m.scaled places) places = d at *
  refine ⟨_, _, text, digits.take _, ?_, canonical, digits.drop _, fun s e => ?_⟩
  · simp only [ne_eq, List.take_eq_nil_iff, not_or]
    exact ⟨by omega, by rintro rfl; cases long⟩
  · have decimals : (d.drop (d.length - places)).length = places := by
      rw [List.length_drop]
      omega
    rw [List.take_append_drop, spelled, decimals]
    congr 1
    exact sub_eq_neg_add e places

section Reading

variable {t whole fraction : Text} {d : Decimal}

theorem isMantissa_pointed (digits : IsDigits whole) (nonempty : whole ≠ [])
    (decimals : IsDigits fraction) : IsMantissa whole fraction (whole ++ pointed fraction) := by
  by_cases none_after : fraction = []
  · rw [none_after, pointed, if_pos rfl, List.append_nil]
    exact .whole digits nonempty
  · rw [pointed, if_neg none_after]
    exact .pointed digits nonempty decimals

theorem read?_of_spells (spells : Spells t d whole fraction) (s : Bool) :
    read? (signText s ++ t) = some (ofDecimal s d.digits d.exponent) := by
  have number := spells.number s 0
  rw [Int.add_zero] at number
  have mantissa := isMantissa_pointed spells.digits spells.nonempty spells.decimals
  rw [← spells.text] at mantissa
  have unsigned : IsUnsigned s _ (t ++ []) := .decimal mantissa .none
  rw [number, List.append_nil] at unsigned
  exact read?_eq_some_iff.mpr ⟨s, _, t, isSign_signText s, unsigned, rfl⟩

end Reading

/-- The text of a computed number reads back. -/
theorem read?_plainText (x : Double) : read? x.plainText = some x := by
  cases x with
  | nan => decide +kernel
  | inf s => cases s <;> decide +kernel
  | finite s m =>
    obtain ⟨whole, fraction, spells⟩ := spells_plainDigits m.shortest
    rw [plainText, read?_of_spells spells]
    exact congrArg some (ofRounded_shortest s m)

/-- The text of a rounded number is a number text. -/
theorem isSome_read?_fixedText (x : Double) (places : Nat) :
    (read? (x.fixedText places)).isSome := by
  cases x with
  | nan =>
    show (read? (Text.ofString "NaN")).isSome
    decide +kernel
  | inf s =>
    show (read? (signText s ++ Text.ofString "inf")).isSome
    cases s <;> decide +kernel
  | finite s m =>
    obtain ⟨whole, fraction, spells⟩ := spells_fixedDigits m places
    rw [fixedText, read?_of_spells spells]
    rfl

end Double

end TextExpr
