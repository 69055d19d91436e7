import TextExpr.Proofs.Quotation

/-!
# ASCII-quoted texts read back

Points outside printable ASCII are written as one escape or as a pair of them. A text without
surrogates is read back, and so two such texts before any others are equal if they are written
alike. A lone surrogate is written as half of a pair, and would be joined with the next half.
-/
namespace TextExpr

namespace Text

def surrogateFree (t : Text) : Bool := t.all fun p => !p.isHigh && !p.isLow

theorem exists_char_of_surrogateFree {t : Text} (free : t.surrogateFree = true) {p : Point}
    (member : p ∈ t) : ∃ c, p = .char c := by
  have alone := List.all_eq_true.mp free p member
  cases p with
  | char c => exact ⟨c, rfl⟩
  | surrogate n =>
    simp only [Point.isHigh, Point.isLow, Bool.and_eq_true, Bool.not_eq_true',
      decide_eq_false_iff_not] at alone
    omega

end Text

namespace Point

variable {n : Nat}

theorem code_ofCode (inside : 0xD800 ≤ n ∧ n < 0xE000) : (ofCode n).code = n := by
  rw [ofCode_of_inside inside]
  simp only [code, Fin.ofNat]
  omega

theorem isHigh_iff {p : Point} : p.isHigh = true ↔ 0xD800 ≤ p.code ∧ p.code < 0xDC00 := by
  cases p with
  | char c =>
    have valid := c.valid
    simp only [UInt32.isValidChar, Nat.isValidChar] at valid
    simp only [isHigh, code, Char.toNat, Bool.false_eq_true, false_iff]
    omega
  | surrogate n =>
    simp only [isHigh, code, decide_eq_true_eq]
    omega

theorem isLow_iff {p : Point} : p.isLow = true ↔ 0xDC00 ≤ p.code ∧ p.code < 0xE000 := by
  cases p with
  | char c =>
    have valid := c.valid
    simp only [UInt32.isValidChar, Nat.isValidChar] at valid
    simp only [isLow, code, Char.toNat, Bool.false_eq_true, false_iff]
    omega
  | surrogate n =>
    simp only [isLow, code, decide_eq_true_eq]
    omega

end Point

namespace Json

open Quoted

variable {opening backslash left : Text} {n : Nat}

theorem readLow_hex (low : 0xDC00 ≤ n ∧ n < 0xE000) (more : left ≠ []) :
    readLow (escapeCode n ++ left) = .ok (some (.ofCode n, left)) := by
  have escape : escapeCode n ++ left = .char '\\' :: .char 'u' :: (Numeral.hex 4 n ++ left) := rfl
  obtain ⟨long, code, following⟩ := hex_append (Nat.lt_trans low.2 (by decide)) more
  have isLow : (Point.ofCode n).isLow = true := by
    rw [Point.isLow_iff, Point.code_ofCode ⟨Nat.le_trans (by decide) low.1, low.2⟩]
    exact low
  rw [escape, readLow, if_neg long, code, following]
  simp [isLow]

/-- The two halves of a pair are joined to the point they are taken from. -/
theorem readEscape_pair (within : n < 0x100000) (more : left ≠ []) :
    readEscape opening backslash (.char 'u' :: (Numeral.hex 4 (0xD800 + n / 1024) ++
        (escapeCode (0xDC00 + n % 1024) ++ left))) =
      .ok (.ofCode (0x10000 + n), left) := by
  have high : 0xD800 ≤ 0xD800 + n / 1024 ∧ 0xD800 + n / 1024 < 0xDC00 := by omega
  have low : 0xDC00 ≤ 0xDC00 + n % 1024 ∧ 0xDC00 + n % 1024 < 0xE000 := by omega
  have isHigh : (Point.ofCode (0xD800 + n / 1024)).isHigh = true := by
    rw [Point.isHigh_iff, Point.code_ofCode ⟨high.1, by omega⟩]
    exact high
  have joined : (Point.ofCode (0xD800 + n / 1024)).join (Point.ofCode (0xDC00 + n % 1024)) =
      .ofCode (0x10000 + n) := by
    have sum : 0x10000 + (0xD800 + n / 1024 - 0xD800) * 1024 + (0xDC00 + n % 1024 - 0xDC00) =
        0x10000 + n := by omega
    rw [Point.join, Point.code_ofCode ⟨high.1, by omega⟩, Point.code_ofCode ⟨by omega, low.2⟩, sum]
  have second : escapeCode (0xDC00 + n % 1024) ++ left ≠ [] := by simp [escapeCode, Text.ofString]
  obtain ⟨long, code, following⟩ := hex_append (Nat.lt_trans high.2 (by decide)) second
  rw [readEscape, if_neg long, code, following]
  simp only [isHigh, if_true, readLow_hex low more, bind, Except.bind, joined]

theorem readsAs_pair {p : Point} (within : n < 0x100000) (above : p.code = 0x10000 + n) :
    ReadsAs (escapeCode (0xD800 + n / 1024) ++ escapeCode (0xDC00 + n % 1024)) p := by
  show ReadsAs (.char '\\' :: .char 'u' :: (Numeral.hex 4 (0xD800 + n / 1024) ++
    escapeCode (0xDC00 + n % 1024))) p
  refine ReadsAs.of_escape ?_
  intro opening backslash left more
  have same : Point.ofCode (0x10000 + n) = p := by rw [← above, Point.ofCode_code]
  rw [List.cons_append, List.append_assoc, readEscape_pair within more, same]

theorem readsAs_encodeAsciiPoint (c : Char) : ReadsAs (encodeAsciiPoint (.char c)) (.char c) := by
  unfold encodeAsciiPoint
  cases short : shortEscape? (.char c) with
  | some d => exact readsAs_short short
  | none =>
    by_cases printable : 0x20 ≤ (Point.char c).code ∧ (Point.char c).code < 0x7F
    · simp only [if_pos printable]
      exact readsAs_plain short (Nat.not_lt.mpr printable.1)
    by_cases small : (Point.char c).code < 0x10000
    · simp only [if_neg printable, if_pos small]
      exact readsAs_hex small rfl
    · simp only [if_neg printable, if_neg small]
      have bound : (Point.char c).code < 0x110000 := by
        have valid := c.valid
        simp only [UInt32.isValidChar, Nat.isValidChar] at valid
        simp only [Point.code, Char.toNat]
        omega
      exact readsAs_pair (by omega) (by omega)

/-- A text without surrogates reads as the text, from the point after its opening quote. -/
theorem readString_encodeAscii {t : Text} (free : t.surrogateFree = true) (rest : Text) :
    readString (t.flatMap encodeAsciiPoint ++ .char '"' :: rest) = .ok (t, rest) := by
  refine readString_flatMap ?_
  intro p member
  obtain ⟨c, rfl⟩ := Text.exists_char_of_surrogateFree free member
  exact readsAs_encodeAsciiPoint c

/-- Where one quoted text and another begin the same text, they are the same. -/
theorem encodeAscii_append_inj {t u rest left : Text} (free : t.surrogateFree = true)
    (free' : u.surrogateFree = true) (same : encodeAscii t ++ rest = encodeAscii u ++ left) :
    t = u ∧ rest = left := by
  have bodies : t.flatMap encodeAsciiPoint ++ .char '"' :: rest =
      u.flatMap encodeAsciiPoint ++ .char '"' :: left := by
    rw [encodeAscii, encodeAscii, quote_append, quote_append] at same
    exact (List.cons.inj same).2
  have read := readString_encodeAscii free rest
  rw [bodies, readString_encodeAscii free' left] at read
  obtain ⟨texts, rests⟩ := Prod.mk.inj (Except.ok.inj read)
  exact ⟨texts.symm, rests.symm⟩

end Json

end TextExpr
