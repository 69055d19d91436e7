import TextExpr.Proofs.Typing

/-!
# Comparing computed numbers

What an operator of arithmetic ends in is the text of a number. Numbers are compared by their
values and the texts of numbers by their points, and the two agree: of two numbers exactly one is
less, equal or greater. The one exception are the two zeros, which have one value and two texts.
-/
namespace TextExpr

namespace Double

variable {x y : Double} {s t : Bool} {m n : Magnitude}

/-- Numbers that are written alike are the same, sign of zero and all. -/
theorem plainText_inj : x.plainText = y.plainText ↔ x = y := by
  constructor
  · intro same
    have read := read?_plainText x
    rw [same, read?_plainText] at read
    exact (Option.some.inj read).symm
  · rintro rfl
    rfl

theorem signedUnits_eq_iff : signedUnits s m = signedUnits t n ↔
    (s = t ∧ m = n) ∨ (m.units = 0 ∧ n.units = 0) := by
  have magnitudes : m = n ↔ m.units = n.units := by
    cases m
    cases n
    simp
  rw [magnitudes]
  cases s <;> cases t <;> simp [signedUnits] <;> omega

/-- The numbers are the two zeros. -/
def OppositeZeros (x y : Double) : Prop := ∃ s, x = zero s ∧ y = zero !s

theorem finite_eq_zero (none_left : m.units = 0) : finite s m = zero s := by
  cases m
  cases none_left
  rfl

theorem ne_of_signedUnits (different : signedUnits s m ≠ signedUnits t n) :
    finite s m ≠ finite t n ∧ ¬ OppositeZeros (finite s m) (finite t n) := by
  rw [ne_eq, signedUnits_eq_iff, not_or] at different
  constructor
  · intro same
    cases same
    exact different.1 ⟨rfl, rfl⟩
  · rintro ⟨_, left, right⟩
    cases left
    cases right
    exact different.2 ⟨rfl, rfl⟩

theorem eq_or_zeros_of_signedUnits (same : signedUnits s m = signedUnits t n) :
    finite s m = finite t n ∨ OppositeZeros (finite s m) (finite t n) := by
  rcases signedUnits_eq_iff.mp same with ⟨rfl, rfl⟩ | ⟨left, right⟩
  · exact Or.inl rfl
  · rw [finite_eq_zero left, finite_eq_zero right]
    by_cases signs : s = t
    · exact Or.inl (congrArg zero signs)
    · have flipped : t = !s := Bool.eq_not_of_ne (Ne.symm signs)
      exact Or.inr ⟨s, rfl, congrArg zero flipped⟩

/-- No two numbers are each less than the other, and if neither is they are the same number or the
two zeros. -/
theorem order_cases (number : x ≠ nan) (number' : y ≠ nan) :
    (x.lt y = true ∧ x.gt y = false ∧ x ≠ y ∧ ¬ OppositeZeros x y) ∨
    (x.lt y = false ∧ x.gt y = true ∧ x ≠ y ∧ ¬ OppositeZeros x y) ∨
    (x.lt y = false ∧ x.gt y = false ∧ (x = y ∨ OppositeZeros x y)) := by
  cases x with
  | nan => exact absurd rfl number
  | inf s =>
    cases y with
    | nan => exact absurd rfl number'
    | inf t => cases s <;> cases t <;> simp [lt, gt, OppositeZeros, zero]
    | finite t n => cases s <;> simp [lt, gt, OppositeZeros, zero]
  | finite s m =>
    cases y with
    | nan => exact absurd rfl number'
    | inf t => cases t <;> simp [lt, gt, OppositeZeros, zero]
    | finite t n =>
      simp only [lt, gt, decide_eq_true_eq, decide_eq_false_iff_not]
      rcases Int.lt_trichotomy (signedUnits s m) (signedUnits t n) with less | same | greater
      · have different := ne_of_signedUnits less.ne
        exact Or.inl ⟨less, by omega, different⟩
      · have equal := eq_or_zeros_of_signedUnits same
        exact Or.inr (Or.inr ⟨by omega, by omega, equal⟩)
      · have different := ne_of_signedUnits greater.ne'
        exact Or.inr (Or.inl ⟨by omega, greater, different⟩)

end Double

/-- The texts of the two zeros. -/
def ZeroTexts (t u : Text) : Prop :=
  t = Text.ofString "0" ∧ u = Text.ofString "-0" ∨ t = Text.ofString "-0" ∧ u = Text.ofString "0"

instance (t u : Text) : Decidable (ZeroTexts t u) := inferInstanceAs (Decidable (_ ∨ _))

theorem zeroTexts_plainText {x y : Double} :
    ZeroTexts x.plainText y.plainText ↔ x.OppositeZeros y := by
  have positive : (Double.zero false).plainText = Text.ofString "0" := by decide +kernel
  have negative : (Double.zero true).plainText = Text.ofString "-0" := by decide +kernel
  rw [ZeroTexts, ← positive, ← negative]
  simp only [Double.plainText_inj]
  constructor
  · rintro (⟨left, right⟩ | ⟨left, right⟩)
    · exact ⟨false, left, right⟩
    · exact ⟨true, left, right⟩
  · rintro ⟨s, left, right⟩
    cases s with
    | false => exact Or.inl ⟨left, right⟩
    | true => exact Or.inr ⟨left, right⟩

theorem Double.OppositeZeros.ne {x y : Double} (zeros : x.OppositeZeros y) : x ≠ y := by
  rintro rfl
  obtain ⟨s, left, right⟩ := zeros
  rw [left] at right
  cases s <;> cases right

/-- Exactly one of three comparisons holds, but of the two zeros none. -/
theorem Double.count_comparisons {x y : Double} (number : x ≠ .nan) (number' : y ≠ .nan) :
    let equal := decide (x.plainText = y.plainText)
    (x.OppositeZeros y → x.lt y = false ∧ equal = false ∧ x.gt y = false) ∧
    (¬ x.OppositeZeros y → (equal = true ↔ x.lt y = false ∧ x.gt y = false) ∧
      [x.lt y, equal, x.gt y].count true = 1) := by
  simp only [plainText_inj]
  rcases order_cases number number' with ⟨below, notAbove, different, nonzero⟩ |
    ⟨notBelow, above, different, nonzero⟩ | ⟨notBelow, notAbove, same | zeros⟩
  · simp [below, notAbove, different, nonzero]
  · simp [notBelow, above, different, nonzero]
  · have nonzero : ¬ x.OppositeZeros y := fun zeros => zeros.ne same
    subst same
    simp [notBelow, notAbove, nonzero]
  · simp [notBelow, notAbove, zeros.ne, zeros]

section Evaluation

open Value (asDouble_ofDouble)

variable {left right r : Value}

/-- The operators that take numbers alone and give a number. -/
def BinOp.IsNumeric (op : BinOp) : Prop :=
  op = .minus ∨ op = .times ∨ op = .div ∨ op = .mod

theorem BinOp.IsNumeric.made {op : BinOp} (numeric : op.IsNumeric)
    (made : applyBinary op left right = .ok r) : ∃ x, r = .ofDouble x := by
  rcases numeric with rfl | rfl | rfl | rfl
  all_goals
    obtain ⟨x, y, _, _, same⟩ := readBoth_eq_ok_iff.mp made
    exact ⟨_, same.symm⟩

namespace Expr

variable {ctx : Context} {s : Span} {e l r : Expr} {v : Value}

theorem outcome_bin_eq_ok_iff {op : BinOp} : (bin s op l r).outcome ctx = .ok v ↔
    ∃ a b w, l.outcome ctx = .ok a ∧ r.outcome ctx = .ok b ∧ applyBinary op a b = .ok w ∧
      w.withSpan s = v := by
  constructor
  · intro ended
    obtain ⟨values, conclusion, evaluated, concluded, ended⟩ := outcome_eq_ok_iff.mp ended
    obtain ⟨a, b, rfl, left, right⟩ := evaluated.of_bin
    obtain ⟨w, made, rfl⟩ := map_eq_ok_iff.mp concluded
    exact ⟨a, b, w, left, right, made, Except.ok.inj ended⟩
  · rintro ⟨a, b, w, left, right, made, rfl⟩
    exact outcome_bin left right made

/-- Differences, products, quotients, remainders, and the sums of two operands that are numbers. -/
inductive Arithmetic (ctx : Context) : Expr → Prop where
  | numeric {op : BinOp} (s : Span) (l r : Expr) (numeric : op.IsNumeric) :
      Arithmetic ctx (.bin s op l r)
  | sum {l r : Expr} {a b : Value} (s : Span) (left : l.outcome ctx = .ok a)
      (onLeft : a.HasKind .number) (right : r.outcome ctx = .ok b) (onRight : b.HasKind .number) :
      Arithmetic ctx (.bin s .plus l r)

/-- What an arithmetic tree ends in is the text of a number. -/
theorem Arithmetic.exists_double (arithmetic : e.Arithmetic ctx) (ended : e.outcome ctx = .ok v) :
    ∃ x, v = (Value.ofDouble x).withSpan e.span := by
  cases arithmetic with
  | numeric s l r numeric =>
    obtain ⟨a, b, w, _, _, made, rfl⟩ := outcome_bin_eq_ok_iff.mp ended
    obtain ⟨x, rfl⟩ := numeric.made made
    exact ⟨x, rfl⟩
  | sum s left onLeft right onRight =>
    obtain ⟨x, readsLeft⟩ := onLeft
    obtain ⟨y, readsRight⟩ := onRight
    have adds : applyBinary .plus _ _ = .ok (.ofDouble (x.add y)) :=
      congrArg Except.ok (addValues_numbers readsLeft readsRight)
    cases (outcome_bin left right adds).symm.trans ended
    exact ⟨x.add y, rfl⟩

end Expr

end Evaluation

namespace Expr

/-- Where two arithmetic trees end in numbers, exactly one of the comparisons for less, equal and
greater is true. Where they end in the two zeros none is, since the zeros have one value and two
texts. -/
theorem evaluate_comparisons {env : Env} {source : Option Source} {settings : Settings}
    {a b : Expr} {v w : Value} (onLeft : a.Arithmetic ⟨env, source, settings.trace⟩)
    (onRight : b.Arithmetic ⟨env, source, settings.trace⟩)
    (left : (evaluate a env source settings).outcome = .ok v)
    (right : (evaluate b env source settings).outcome = .ok w)
    (number : v.text ≠ Text.ofString "NaN") (number' : w.text ≠ Text.ofString "NaN")
    (s t u : Span) :
    ∃ less equal greater : Bool,
      (evaluate (.bin s .lessThan a b) env source settings).outcome =
        .ok ((Value.ofBool less).withSpan s) ∧
      (evaluate (.bin t .equals a b) env source settings).outcome =
        .ok ((Value.ofBool equal).withSpan t) ∧
      (evaluate (.bin u .greaterThan a b) env source settings).outcome =
        .ok ((Value.ofBool greater).withSpan u) ∧
      (ZeroTexts v.text w.text → less = false ∧ equal = false ∧ greater = false) ∧
      (¬ ZeroTexts v.text w.text → (equal = true ↔ less = false ∧ greater = false) ∧
        [less, equal, greater].count true = 1) := by
  obtain ⟨x, rfl⟩ := onLeft.exists_double left
  obtain ⟨y, rfl⟩ := onRight.exists_double right
  have readsLeft := Value.asDouble_ofDouble x a.span
  have readsRight := Value.asDouble_ofDouble y b.span
  have isNumber : ∀ z : Double, z.plainText ≠ Text.ofString "NaN" → z ≠ .nan := by
    rintro z text rfl
    exact text rfl
  have counted := Double.count_comparisons (isNumber x number) (isNumber y number')
  rw [← zeroTexts_plainText] at counted
  refine ⟨x.lt y, decide (x.plainText = y.plainText), x.gt y, ?_, ?_, ?_, counted⟩
  · exact outcome_bin left right (readBoth_taken readsLeft readsRight _)
  · exact outcome_bin left right rfl
  · exact outcome_bin left right (readBoth_taken readsLeft readsRight _)

/-- A sum of texts that read as numbers, which is the next number after the product. -/
theorem evaluate_comparisons_tenths :
    let sum : Expr := .bin ⟨0, 7, 0⟩ .plus (.lit ⟨0, 3, 0⟩ ⟨"+.1", none⟩)
      (.lit ⟨4, 7, 0⟩ ⟨"2e-1", none⟩)
    let product : Expr := .bin ⟨11, 20, 0⟩ .times (.lit ⟨11, 14, 0⟩ ⟨"0.3", none⟩)
      (.lit ⟨17, 20, 0⟩ ⟨"1.0", none⟩)
    let v : Value := ⟨"0.30000000000000004", some ⟨0, 7, 0⟩⟩
    let w : Value := ⟨"0.3", some ⟨11, 20, 0⟩⟩
    let s : Span := ⟨0, 20, 0⟩
    (evaluate sum .empty none {}).outcome = .ok v ∧
    (evaluate product .empty none {}).outcome = .ok w ∧ ¬ ZeroTexts v.text w.text ∧
    ∃ less equal greater : Bool,
      (evaluate (.bin s .lessThan sum product) .empty none {}).outcome =
        .ok ((Value.ofBool less).withSpan s) ∧
      (evaluate (.bin s .equals sum product) .empty none {}).outcome =
        .ok ((Value.ofBool equal).withSpan s) ∧
      (evaluate (.bin s .greaterThan sum product) .empty none {}).outcome =
        .ok ((Value.ofBool greater).withSpan s) ∧ [less, equal, greater].count true = 1 := by
  intro sum product v w s
  have left : (evaluate sum .empty none {}).outcome = .ok v := by decide +kernel
  have right : (evaluate product .empty none {}).outcome = .ok w := by decide +kernel
  have tenth : Value.HasKind ((⟨"+.1", none⟩ : Value).withSpan ⟨0, 3, 0⟩) .number :=
    ⟨.ofDecimal false 1 (-1), Value.asDouble_eq_ok_iff.mpr (by decide +kernel)⟩
  have fifth : Value.HasKind ((⟨"2e-1", none⟩ : Value).withSpan ⟨4, 7, 0⟩) .number :=
    ⟨.ofDecimal false 2 (-1), Value.asDouble_eq_ok_iff.mpr (by decide +kernel)⟩
  have onLeft : sum.Arithmetic ⟨.empty, none, false⟩ :=
    .sum _ outcome_lit tenth outcome_lit fifth
  have onRight : product.Arithmetic ⟨.empty, none, false⟩ :=
    .numeric _ _ _ (Or.inr (Or.inl rfl))
  have other : ¬ ZeroTexts v.text w.text := by decide
  obtain ⟨less, equal, greater, below, same, above, _, counted⟩ :=
    evaluate_comparisons onLeft onRight left right (by decide) (by decide) s s s
  exact ⟨left, right, other, less, equal, greater, below, same, above, (counted other).2⟩

/-- The remainders of -4 and of 4 are zeros of either sign, which are neither equal nor the one
less than the other. -/
theorem zeros_incomparable :
    let negative : Expr := .bin ⟨0, 6, 0⟩ .mod (.lit ⟨0, 2, 0⟩ ⟨"-4", none⟩)
      (.lit ⟨5, 6, 0⟩ ⟨"2", none⟩)
    let positive : Expr := .bin ⟨10, 15, 0⟩ .mod (.lit ⟨10, 11, 0⟩ ⟨"4", none⟩)
      (.lit ⟨14, 15, 0⟩ ⟨"2", none⟩)
    let s : Span := ⟨0, 15, 0⟩
    let no : Except Failure Value := .ok ⟨"false", some s⟩
    negative.Arithmetic ⟨.empty, none, false⟩ ∧ positive.Arithmetic ⟨.empty, none, false⟩ ∧
    (evaluate negative .empty none {}).outcome = .ok ⟨"-0", some ⟨0, 6, 0⟩⟩ ∧
    (evaluate positive .empty none {}).outcome = .ok ⟨"0", some ⟨10, 15, 0⟩⟩ ∧
    (evaluate (.bin s .lessThan negative positive) .empty none {}).outcome = no ∧
    (evaluate (.bin s .equals negative positive) .empty none {}).outcome = no ∧
    (evaluate (.bin s .greaterThan negative positive) .empty none {}).outcome = no := by
  have numeric : BinOp.IsNumeric .mod := Or.inr (Or.inr (Or.inr rfl))
  refine ⟨.numeric _ _ _ numeric, .numeric _ _ _ numeric, ?_⟩
  decide +kernel

end Expr

end TextExpr
