import TextExpr.Proofs.Decoded
import TextExpr.Proofs.Document
import TextExpr.Proofs.NearestNumber

/-!
# The readings of one text agree

A text can be read as a truth value, as a number, as a whole number of 32 bits and as a document.
Whatever number a document is, its text is a number text too, if no blanks stand around it. It is
read as the same number, a whole number as the nearest one there is. So a number that is taken out
of a document can be computed with, also where it is infinite.
-/
namespace TextExpr

open Numeral (signed value)

namespace Json

variable {t u left : Text} {y : Json} {depth : Nat}

section Scalars

def IsNumber : Json → Prop
  | .int _ => True
  | .float _ => True
  | _ => False

theorem readScalar_of_readValue (scalar : ¬ y.IsContainer)
    (read : readValue depth t = .ok (y, left)) : readScalar t = .ok (y, left) := by
  cases depth with
  | zero =>
    unfold readValue at read
    split at read
    · cases read
    · cases read
    · exact read
  | succ depth =>
    unfold readValue at read
    split at read
    · split at read
      · cases read
        exact absurd trivial scalar
      · obtain ⟨⟨items, behind⟩, _, ended⟩ := bind_eq_ok_iff.mp read
        cases ended
        exact absurd trivial scalar
    · split at read
      · cases read
        exact absurd trivial scalar
      · obtain ⟨⟨members, behind⟩, _, ended⟩ := bind_eq_ok_iff.mp read
        cases ended
        exact absurd trivial scalar
    · exact read

theorem not_isNumber_literal {w : Text × Json} (member : w ∈ literals) : ¬ w.2.IsNumber := by
  simp only [literals, List.mem_cons, List.not_mem_nil, or_false] at member
  rcases member with rfl | rfl | rfl <;> exact id

theorem readNumber_of_readScalar (number : y.IsNumber) (read : readScalar t = .ok (y, left)) :
    readNumber t = .ok (y, left) := by
  unfold readScalar at read
  split at read
  next rest =>
    obtain ⟨⟨s, behind⟩, _, ended⟩ := bind_eq_ok_iff.mp read
    cases ended
    exact number.elim
  next =>
    split at read
    next found literal =>
      cases read
      obtain ⟨w, member, taken⟩ := List.exists_of_findSome?_eq_some literal
      obtain ⟨_, _, same⟩ := Option.map_eq_some_iff.mp taken
      obtain ⟨rfl, -⟩ := Prod.mk.inj same
      exact absurd number (not_isNumber_literal member)
    next =>
      split at read
      next => cases read
      next => exact read

theorem IsNumber.not_isContainer (number : y.IsNumber) : ¬ y.IsContainer := by
  cases y with
  | list | obj => exact number.elim
  | null | bool | int | float | str => exact id

end Scalars

section Blanks

/-- No blank stands before the text or after it. These are the blanks of a document, which are the
only ones that it can stand between. -/
def Trimmed (t : Text) : Prop :=
  (∀ p ∈ t.head?, isBlank p = false) ∧ ∀ p ∈ t.getLast?, isBlank p = false

theorem Trimmed.skipBlanks (trimmed : Trimmed t) : skipBlanks t = t := by
  cases t with
  | nil => rfl
  | cons p t =>
    have first : isBlank p = false := trimmed.1 p rfl
    rw [Json.skipBlanks, List.dropWhile_cons, first]
    rfl

theorem Trimmed.eq_nil (trimmed : Trimmed (u ++ left)) (blanks : Json.skipBlanks left = []) :
    left = [] := by
  by_contra some_left
  have last := List.getLast?_eq_some_getLast some_left
  have ends : (u ++ left).getLast? = some (left.getLast some_left) := by
    rw [List.getLast?_append, last]
    rfl
  have blank := List.dropWhile_eq_nil_iff.mp blanks _ (List.getLast_mem some_left)
  rw [trimmed.2 _ ends] at blank
  cases blank

/-- A text that is a number in a document, and has no blanks around it, is the text of it. -/
theorem isNumeral_of_read (trimmed : Trimmed t) (read : Json.read t = .ok y)
    (number : y.IsNumber) : IsNumeral y t := by
  have whole := mapError_eq_ok_iff.mp read
  unfold readWholeText at whole
  split at whole
  · cases whole
  · obtain ⟨⟨x, left⟩, first, others⟩ := bind_eq_ok_iff.mp whole
    dsimp only at others
    split at others
    next blanks =>
      cases others
      rw [trimmed.skipBlanks] at first
      have scalar := readScalar_of_readValue number.not_isContainer first
      obtain ⟨u, numeral, rfl⟩ := isNumeral_of_readNumber (readNumber_of_readScalar number scalar)
      rwa [trimmed.eq_nil blanks, List.append_nil]
    next => cases others

end Blanks

section Numerals

variable {z : Double} {i : Int}

theorem IsNumeral.read_float (numeral : IsNumeral (.float z) t) : Double.read? t = some z := by
  cases numeral with
  | float mantissa _ exponent =>
    exact read?_eq_some_iff.mpr
      ⟨_, _, _, isSign_signText _, .decimal mantissa exponent, rfl⟩

theorem IsNumeral.isWholeText (numeral : IsNumeral (.int i) t) : IsWholeText i t := by
  cases numeral with
  | int digits nonempty few =>
    rw [Numeral.value_eq_ofDigits]
    exact ⟨_, _, _, isSign_signText _, digits, rfl, List.length_pos_iff.mpr nonempty, few, rfl⟩

end Numerals

end Json

section Whole

variable {t : Text} {i : Int}

/-- The text of a whole number is a number text, too. -/
theorem IsWholeText.read? (number : IsWholeText i t) :
    ∃ s, Double.read? t = some (.ofDecimal s i.natAbs 0) ∧ signed s i.natAbs = i := by
  obtain ⟨s, sign, d, signs, digits, rfl, some_digit, _, rfl⟩ := number
  have nonempty : d ≠ [] := List.length_pos_iff.mp some_digit
  have unsigned : IsUnsigned s (.ofDecimal s (value d) 0) d := by
    have plain := IsUnsigned.decimal (s := s) (.whole digits nonempty) .none
    simpa using plain
  rw [← Numeral.value_eq_ofDigits, Json.natAbs_signed]
  exact ⟨s, read?_eq_some_iff.mpr ⟨s, sign, d, signs, unsigned, rfl⟩, rfl⟩

theorem isNearest_whole {s : Bool} (sign : signed s i.natAbs = i) :
    (Double.ofDecimal s i.natAbs 0).IsNearest i := by
  have exact : Double.signedRat s (i.natAbs * 10 ^ (0 : ℤ)) = i := by
    conv_rhs => rw [← sign]
    cases s <;> simp [Double.signedRat, signed]
  rw [← exact]
  exact Double.isNearest_ofDecimal s i.natAbs 0

theorem IsWholeText.exists_nearest (number : IsWholeText i t) :
    ∃ x, Double.read? t = some x ∧ x.IsNearest i := by
  obtain ⟨s, read, sign⟩ := number.read?
  exact ⟨_, read, isNearest_whole sign⟩

/-- A whole number of 32 bits is not rounded. -/
theorem IsWholeText.exists_exact (number : IsWholeText i t)
    (inside : -2 ^ 31 ≤ i ∧ i ≤ 2 ^ 31 - 1) :
    ∃ x, Double.read? t = some x ∧ x.toRat? = some (i : ℚ) := by
  obtain ⟨x, read, near⟩ := number.exists_nearest
  have bound : leadingBit = 2 ^ 52 := rfl
  have small : i.natAbs ≤ 2 * leadingBit := by omega
  have exact := Double.toRat?_whole (decide (i < 0)) small
  rw [Json.signed_natAbs] at exact
  exact ⟨x, read, near.toRat?_eq exact⟩

end Whole

namespace Value

variable {v : Value} {b : Bool} {y : Double} {i : Int}

theorem text_of_asBool (truth : v.asBool = .ok b) :
    v.text = Text.ofString (if b then "true" else "false") := by
  unfold asBool at truth
  split at truth
  next same =>
    cases truth
    exact same
  split at truth
  next same =>
    cases truth
    exact same
  next => cases truth

theorem others_of_asBool (truth : v.asBool = .ok b) : v.asJson = .ok (.bool b) ∧
    v.asDouble = .error (.conversion v (Text.ofString "f64") none) ∧
    v.asI32 = .error (.conversion v (Text.ofString "i32") none) := by
  have text := text_of_asBool truth
  rw [asJson_eq_ok_iff, asDouble, asI32, text]
  cases b with
  | true => exact ⟨by rfl, by rfl, by rfl⟩
  | false => exact ⟨by rfl, by rfl, by rfl⟩

theorem asDouble_ofJson_float (y : Double) : (ofJson (.float y)).asDouble = .ok y := by
  rw [asDouble_eq_ok_iff]
  show Double.read? y.scientificText = some y
  cases y with
  | nan => decide +kernel
  | inf s => cases s <;> decide +kernel
  | finite s m =>
    have read := Json.readNumber_scientificDigits s m.shortest Json.endsNumber_nil
    rw [Double.ofRounded_shortest, List.append_nil] at read
    obtain ⟨u, numeral, parts⟩ := Json.isNumeral_of_readNumber read
    rw [List.append_nil] at parts
    rw [Double.scientificText, parts]
    exact numeral.read_float

theorem asDouble_ofJson_int (few : (Nat.toDigits 10 i.natAbs).length ≤ 4300) :
    ∃ x, (ofJson (.int i)).asDouble = .ok x ∧ x.IsNearest i := by
  have short : i.natAbs < Nat.pow 10 Numeral.digitLimit := by
    rw [← Numeral.length_ofNat_le_iff (by decide), Numeral.ofNat, List.length_map]
    exact few
  have read := Json.readNumber_ofInt short Json.endsNumber_nil
  obtain ⟨u, numeral, parts⟩ := Json.isNumeral_of_readNumber read
  rw [List.append_nil, List.append_nil] at parts
  obtain ⟨x, number, nearest⟩ := numeral.isWholeText.exists_nearest
  rw [← parts] at number
  exact ⟨x, asDouble_eq_ok_iff.mpr number, nearest⟩

/-- What one reading makes of a text the others make of it, or refuse it. -/
theorem readings_agree (v : Value) :
    (∀ b, v.asBool = .ok b → v.asJson = .ok (.bool b) ∧
      v.asDouble = .error (.conversion v (Text.ofString "f64") none) ∧
      v.asI32 = .error (.conversion v (Text.ofString "i32") none)) ∧
    (∀ i, v.asI32 = .ok i → ∃ x, v.asDouble = .ok x ∧ x.toRat? = some (i : ℚ)) ∧
    (Json.Trimmed v.text →
      (∀ y, v.asJson = .ok (.float y) → v.asDouble = .ok y) ∧
      ∀ i, v.asJson = .ok (.int i) → (∃ x, v.asDouble = .ok x ∧ x.IsNearest i) ∧
        (-2 ^ 31 ≤ i → i ≤ 2 ^ 31 - 1 → v.asI32 = .ok i)) ∧
    (∀ y, (ofJson (.float y)).asDouble = .ok y) ∧
    ∀ i : Int, (Nat.toDigits 10 i.natAbs).length ≤ 4300 →
      ∃ x, (ofJson (.int i)).asDouble = .ok x ∧ x.IsNearest i := by
  refine ⟨fun b => others_of_asBool, ?_, ?_, asDouble_ofJson_float, fun i => asDouble_ofJson_int⟩
  · intro i reads
    obtain ⟨number, inside⟩ := asI32_eq_ok_iff_isWholeText.mp reads
    obtain ⟨x, read, exact⟩ := number.exists_exact inside
    exact ⟨x, asDouble_eq_ok_iff.mpr read, exact⟩
  · intro trimmed
    constructor
    · intro y decoded
      have numeral := Json.isNumeral_of_read trimmed (asJson_eq_ok_iff.mp decoded) trivial
      exact asDouble_eq_ok_iff.mpr numeral.read_float
    · intro i decoded
      have numeral := Json.isNumeral_of_read trimmed (asJson_eq_ok_iff.mp decoded) trivial
      obtain ⟨x, read, nearest⟩ := numeral.isWholeText.exists_nearest
      refine ⟨⟨x, asDouble_eq_ok_iff.mpr read, nearest⟩, fun low high => ?_⟩
      exact asI32_eq_ok_iff_isWholeText.mpr ⟨numeral.isWholeText, low, high⟩

/-- A number out of range is an infinite number in the document, and so is its text. -/
theorem readings_agree_overflow :
    let v : Value := ⟨"-1e999", none⟩
    v.asJson = .ok (.float (.inf true)) ∧ v.asDouble = .ok (.inf true) ∧
    (ofJson (.float (.inf true))).text = Text.ofString "-Infinity" ∧
    (ofJson (.float (.inf true))).asDouble = .ok (.inf true) := by
  intro v
  have decoded : v.asJson = .ok (.float (.inf true)) := by rfl
  have trimmed : Json.Trimmed v.text := by
    constructor <;> rintro p ⟨⟩ <;> rfl
  obtain ⟨-, -, numbers, again, -⟩ := readings_agree v
  exact ⟨decoded, (numbers trimmed).1 _ decoded, rfl, again (.inf true)⟩

end Value

end TextExpr
