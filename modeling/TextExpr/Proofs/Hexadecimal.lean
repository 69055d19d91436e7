import TextExpr.Numeral

/-!
# Hexadecimal digits

A number that fits a width is written with exactly as many digits, and they have its value.
-/
namespace TextExpr.Numeral

variable {n width : Nat}

/-- The last digit is that of the remainder by sixteen, those before it spell the quotient. -/
theorem hex_succ (width n : Nat) :
    hex (width + 2) n = hex (width + 1) (n / 16) ++ [.char (n % 16).digitChar] := by
  rcases Nat.lt_or_ge n 16 with small | large
  · have quotient : n / 16 = 0 := Nat.div_eq_of_lt small
    have remainder : n % 16 = n := Nat.mod_eq_of_lt small
    have zeros : hex (width + 1) 0 = List.replicate (width + 1) (.char '0') :=
      List.replicate_succ'.symm
    rw [quotient, remainder, zeros, hex, Nat.toDigits_of_lt_base small]
    rfl
  · rw [hex, hex, Nat.toDigits_of_base_le (by decide) large]
    simp

theorem hexValue?_digitChar : ∀ d < 16, (Point.char d.digitChar).hexValue? = some d := by
  decide

theorem hexValue_append_digit (t : Text) (p : Point) :
    hexValue (t ++ [p]) = hexValue t * 16 + p.hexValue?.getD 0 := by
  rw [hexValue, List.foldl_append]
  rfl

theorem length_hex (fits : n < Nat.pow 16 (width + 1)) :
    (hex (width + 1) n).length = width + 1 := by
  have digits : (Nat.toDigits 16 n).length ≤ width + 1 :=
    (Nat.length_toDigits_le_iff (by decide) (Nat.succ_pos width)).mpr fits
  rw [hex, List.length_append, List.length_replicate, List.length_map]
  omega

theorem hexValue_hex (fits : n < Nat.pow 16 (width + 1)) :
    (hex (width + 1) n).all (·.hexValue?.isSome) = true ∧ hexValue (hex (width + 1) n) = n := by
  induction width generalizing n with
  | zero =>
    have single : ∀ n < 16, (hex 1 n).all (·.hexValue?.isSome) = true ∧
        hexValue (hex 1 n) = n := by decide
    exact single n fits
  | succ width ih =>
    have product : Nat.pow 16 (width + 2) = 16 * Nat.pow 16 (width + 1) := Nat.mul_comm _ 16
    obtain ⟨digits, value⟩ := ih (Nat.div_lt_of_lt_mul (product ▸ fits))
    have last := hexValue?_digitChar (n % 16) (Nat.mod_lt n (by decide))
    constructor
    · rw [hex_succ, List.all_append, digits]
      simp [last]
    · rw [hex_succ, hexValue_append_digit, value, last]
      exact Nat.div_add_mod' n 16

end TextExpr.Numeral
