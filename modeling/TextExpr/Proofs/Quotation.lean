import TextExpr.Json.Reader
import TextExpr.Proofs.Hexadecimal
import TextExpr.Text.Quoted

/-!
# Quoted texts read back

Every point is written in a form that is read as this point: as it is, as an escape of two
characters, or as one of four hexadecimal digits. No two points are joined on the way, since a
surrogate is written as it is.
-/
namespace TextExpr.Json

open Quoted

variable {p : Point} {t rest : Text} {n : Nat}

/-- The point is read of its written form whenever something follows. -/
def ReadsAs (written : Text) (p : Point) : Prop :=
  ∀ opening left fuel, left ≠ [] → readPoints opening (fuel + 1) (written ++ left) =
    (readPoints opening fuel left).map fun found => (p :: found.1, found.2)

section Forms

variable {opening backslash left : Text}

theorem ReadsAs.of_escape {escape : Text}
    (reads : ∀ opening backslash left, left ≠ [] →
      readEscape opening backslash (escape ++ left) = .ok (p, left)) :
    ReadsAs (.char '\\' :: escape) p := by
  intro opening left fuel more
  rw [List.cons_append, readPoints, if_neg (by decide), if_pos rfl, reads _ _ _ more]
  simp only [bind, Except.bind]
  cases readPoints opening fuel left <;> rfl

theorem unescape?_of_shortEscape? {c : Char} (short : shortEscape? p = some c) :
    unescape? (.char c) = some p ∧ c ≠ 'u' := by
  unfold shortEscape? at short
  split at short <;> cases short <;> exact ⟨rfl, by decide⟩

theorem readEscape_short {c : Char} (other : c ≠ 'u') (known : unescape? (.char c) = some p) :
    readEscape opening backslash (.char c :: left) = .ok (p, left) := by
  unfold readEscape
  split
  next same => cases same
  next same =>
    cases same
    exact absurd rfl other
  next same =>
    cases same
    simp [known]

theorem readsAs_short {c : Char} (short : shortEscape? p = some c) :
    ReadsAs [.char '\\', .char c] p := by
  obtain ⟨known, other⟩ := unescape?_of_shortEscape? short
  refine ReadsAs.of_escape ?_
  intro opening backslash left _
  exact readEscape_short other known

theorem hexCode?_hex (small : n < 0x10000) : hexCode? (Numeral.hex 4 n) = some n := by
  have fits : n < Nat.pow 16 (3 + 1) := small
  obtain ⟨digits, value⟩ := Numeral.hexValue_hex fits
  rw [hexCode?, Numeral.length_hex fits, digits, value]
  rfl

/-- Four digits and something after them are taken apart where they meet. -/
theorem hex_append (small : n < 0x10000) (more : left ≠ []) :
    ¬ (Numeral.hex 4 n ++ left).length < 5 ∧
      hexCode? ((Numeral.hex 4 n ++ left).take 4) = some n ∧
      (Numeral.hex 4 n ++ left).drop 4 = left := by
  have fits : n < Nat.pow 16 (3 + 1) := small
  have width : (Numeral.hex 4 n).length = 4 := Numeral.length_hex fits
  have something : 0 < left.length := List.length_pos_iff.mpr more
  refine ⟨?_, ?_, List.drop_left' width⟩
  · rw [List.length_append]
    omega
  · rw [List.take_left' width, hexCode?_hex small]

theorem readEscape_hex (small : n < 0x10000) (single : (Point.ofCode n).isHigh = false)
    (more : left ≠ []) :
    readEscape opening backslash (.char 'u' :: (Numeral.hex 4 n ++ left)) =
      .ok (.ofCode n, left) := by
  obtain ⟨long, code, following⟩ := hex_append small more
  rw [readEscape, if_neg long, code, following]
  simp [single]

theorem readsAs_hex (small : p.code < 0x10000) (single : p.isHigh = false) :
    ReadsAs (escapeCode p.code) p := by
  show ReadsAs (.char '\\' :: .char 'u' :: Numeral.hex 4 p.code) p
  refine ReadsAs.of_escape ?_
  intro opening backslash left more
  have same : Point.ofCode p.code = p := p.ofCode_code
  rw [List.cons_append, readEscape_hex small (by rw [same]; exact single) more, same]

/-- A point without an escape of its own is no quote and no backslash. -/
theorem ne_of_shortEscape?_eq_none (plain : shortEscape? p = none) :
    p ≠ .char '"' ∧ p ≠ .char '\\' := by
  constructor
  · rintro rfl
    cases plain
  · rintro rfl
    cases plain

theorem readsAs_plain (plain : shortEscape? p = none) (noControl : ¬ p.code < 0x20) :
    ReadsAs [p] p := by
  intro opening left fuel _
  obtain ⟨noQuote, noBackslash⟩ := ne_of_shortEscape?_eq_none plain
  rw [List.singleton_append, readPoints, if_neg noQuote, if_neg noBackslash, if_neg noControl]
  cases readPoints opening fuel left <;> rfl

end Forms

section Sequences

variable {written : Point → Text}

theorem ReadsAs.length_pos {form : Text} (reads : ReadsAs form p) : 0 < form.length := by
  rw [List.length_pos_iff]
  rintro rfl
  -- before a closing quote a point is read, and none stands there
  cases reads [] [.char '"'] 1 (List.cons_ne_nil _ _)

theorem length_le_length_flatMap (reads : ∀ p ∈ t, ReadsAs (written p) p) :
    t.length ≤ (t.flatMap written).length := by
  induction t with
  | nil => exact Nat.le_refl _
  | cons p t ih =>
    obtain ⟨first, others⟩ := List.forall_mem_cons.mp reads
    have something := first.length_pos
    have shorter := ih others
    rw [List.flatMap_cons, List.length_append, List.length_cons]
    omega

theorem readPoints_flatMap {opening : Text} {fuel : Nat}
    (reads : ∀ p ∈ t, ReadsAs (written p) p) (enough : t.length < fuel) :
    readPoints opening fuel (t.flatMap written ++ .char '"' :: rest) = .ok (t, rest) := by
  induction t generalizing fuel with
  | nil =>
    obtain ⟨fuel, rfl⟩ := Nat.exists_eq_add_one.mpr enough
    rfl
  | cons p t ih =>
    obtain ⟨first, others⟩ := List.forall_mem_cons.mp reads
    obtain ⟨fuel, rfl⟩ := Nat.exists_eq_add_one.mpr (Nat.zero_lt_of_lt enough)
    have following : t.flatMap written ++ .char '"' :: rest ≠ [] := by simp
    rw [List.flatMap_cons, List.append_assoc, first _ _ _ following,
      ih others (Nat.lt_of_succ_lt_succ enough)]
    rfl

/-- If every point is read of its form, the text is read of the forms in a row. -/
theorem readString_flatMap (reads : ∀ p ∈ t, ReadsAs (written p) p) :
    readString (t.flatMap written ++ .char '"' :: rest) = .ok (t, rest) := by
  have long := length_le_length_flatMap reads
  refine readPoints_flatMap reads ?_
  rw [List.length_append]
  omega

theorem quote_append (body rest : Text) :
    quote body ++ rest = .char '"' :: (body ++ .char '"' :: rest) := by
  simp [quote]

end Sequences

theorem readsAs_encodePoint (p : Point) : ReadsAs (encodePoint p) p := by
  unfold encodePoint
  cases short : shortEscape? p with
  | some c => exact readsAs_short short
  | none =>
    by_cases control : p.code < 0x20
    · have single : p.isHigh = false := by
        cases p with
        | char c => rfl
        | surrogate n =>
          simp only [Point.code] at control
          omega
      simp only [if_pos control]
      exact readsAs_hex (Nat.lt_trans control (by decide)) single
    · simp only [if_neg control]
      exact readsAs_plain short control

theorem encode_append (t rest : Text) :
    encode t ++ rest = .char '"' :: (t.flatMap encodePoint ++ .char '"' :: rest) :=
  quote_append _ rest

/-- A quoted text reads as the text, from the point after its opening quote. -/
theorem readString_encode (t rest : Text) :
    readString (t.flatMap encodePoint ++ .char '"' :: rest) = .ok (t, rest) :=
  readString_flatMap fun p _ => readsAs_encodePoint p

end TextExpr.Json
