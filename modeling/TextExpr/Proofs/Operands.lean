import TextExpr.Proofs.Typing
import TextExpr.Proofs.Visit

/-!
# What an operator asks of its operands

Both operands have values before an operator looks at either. Some operators take any two values,
some read both as numbers or both as truth values, and the search reads the right one as a
pattern. So an operator fails with the failure of an operand, the left one first, or with an error
about the first value that it cannot read, whether or not the other value settles the result.
-/
namespace TextExpr

/-- What the refusal of a value says that the value was to be. -/
def Kind.target : Kind → Text
  | .number => Text.ofString "f64"
  | .truth => Text.ofString "bool"

namespace Value

variable {v : Value}

theorem asBool_refused (other : ¬ v.HasKind .truth) :
    v.asBool = .error (.conversion v Kind.truth.target none) := by
  obtain ⟨notTrue, notFalse⟩ := not_or.mp other
  rw [asBool, if_neg notTrue, if_neg notFalse]
  rfl

end Value

namespace BinOp

variable {op : BinOp} {k : Kind} {left right : Value}

/-- The operators that take any two values. -/
def TakesAny (op : BinOp) : Prop :=
  op = .equals ∨ op = .notEquals ∨ op = .plus ∨ op = .elvis

/-- The operators that read both operands as values of one kind. -/
inductive Reads : BinOp → Kind → Prop where
  | and : Reads .and .truth
  | or : Reads .or .truth
  | minus : Reads .minus .number
  | times : Reads .times .number
  | div : Reads .div .number
  | mod : Reads .mod .number
  | greaterThan : Reads .greaterThan .number
  | lessThan : Reads .lessThan .number

theorem TakesAny.applyBinary (any : op.TakesAny) :
    ∃ v, applyBinary op left right = .ok v := by
  rcases any with rfl | rfl | rfl | rfl <;> exact ⟨_, rfl⟩

/-- Such an operator is a function of what its operands are read as. -/
theorem Reads.applyBinary (reads : op.Reads k) :
    ∃ (α : Type) (read : Value → Except EvalError α) (f : α → α → Value),
      (∀ v, v.HasKind k → ∃ a, read v = .ok a) ∧
      (∀ v, ¬ v.HasKind k → read v = .error (.conversion v k.target none)) ∧
      ∀ left right, applyBinary op left right = readBoth read left right f := by
  cases reads with
  | and | or =>
    exact ⟨Bool, Value.asBool, _, fun _ => Value.HasKind.exists_asBool,
      fun _ => Value.asBool_refused, fun _ _ => rfl⟩
  | minus | times | div | mod | greaterThan | lessThan =>
    exact ⟨Double, Value.asDouble, _, fun _ number => number,
      fun _ other => Value.asDouble_refused fun x reads => other ⟨x, reads⟩, fun _ _ => rfl⟩

/-- How an operator ends that is given two values: whether it fails depends on the kinds of the
values and on the pattern alone. -/
structure Verdict (op : BinOp) (left right : Value) (ended : Except Failure Value) : Prop where
  any (takes : op.TakesAny) : ∃ v, ended = .ok v
  kinds {k : Kind} (reads : op.Reads k) :
    (∃ f, ended = .error f) ↔ ¬ left.HasKind k ∨ ¬ right.HasKind k
  onLeft {k : Kind} (reads : op.Reads k) (other : ¬ left.HasKind k) :
    ended = .error (.error (.conversion left k.target none))
  onRight {k : Kind} (reads : op.Reads k) (taken : left.HasKind k) (other : ¬ right.HasKind k) :
    ended = .error (.error (.conversion right k.target none))
  pattern (search : op = .regexMatch) (f : Failure) :
    ended = .error f ↔ compilePattern right.text = .error f

theorem verdict_applyBinary (op : BinOp) (left right : Value) :
    op.Verdict left right (applyBinary op left right) where
  any takes := takes.applyBinary
  kinds := by
    intro k reads
    obtain ⟨α, read, f, taken, refused, applied⟩ := reads.applyBinary
    rw [applied]
    by_cases onLeft : left.HasKind k
    · obtain ⟨a, readsLeft⟩ := taken left onLeft
      by_cases onRight : right.HasKind k
      · obtain ⟨b, readsRight⟩ := taken right onRight
        rw [readBoth_taken readsLeft readsRight]
        simp [onLeft, onRight]
      · rw [readBoth_right readsLeft (refused right onRight)]
        simp [onRight]
    · rw [readBoth_left (refused left onLeft)]
      simp [onLeft]
  onLeft := by
    intro k reads other
    obtain ⟨α, read, f, taken, refused, applied⟩ := reads.applyBinary
    rw [applied, readBoth_left (refused left other)]
  onRight := by
    intro k reads onLeft other
    obtain ⟨α, read, f, taken, refused, applied⟩ := reads.applyBinary
    obtain ⟨a, readsLeft⟩ := taken left onLeft
    rw [applied, readBoth_right readsLeft (refused right other)]
  pattern := by
    rintro rfl f
    exact matchText_eq_error_iff

/-- Giving the result another place changes no failure. -/
theorem Verdict.map {ended : Except Failure Value} (verdict : op.Verdict left right ended)
    (move : Value → Value) : op.Verdict left right (ended.map move) where
  any takes := by
    obtain ⟨v, rfl⟩ := verdict.any takes
    exact ⟨_, rfl⟩
  kinds reads := by
    simp only [map_eq_error_iff]
    exact verdict.kinds reads
  onLeft reads other := map_eq_error_iff.mpr (verdict.onLeft reads other)
  onRight reads taken other := map_eq_error_iff.mpr (verdict.onRight reads taken other)
  pattern search f := map_eq_error_iff.trans (verdict.pattern search f)

end BinOp

namespace Expr

section Operands

variable {ctx : Context} {s : Span} {op : BinOp} {l r : Expr} {a b : Value} {f : Failure}

theorem outcome_bin_left_failed (failed : l.outcome ctx = .error f) :
    (bin s op l r).outcome ctx = .error f := by
  have split : (bin s op l r).operands = l :: [r] := rfl
  exact outcome_of_first_failed split failed

theorem outcome_bin_right_failed (left : l.outcome ctx = .ok a)
    (failed : r.outcome ctx = .error f) : (bin s op l r).outcome ctx = .error f := by
  have split : (bin s op l r).operands = [l] ++ r :: [] := rfl
  refine outcome_of_operand_failed split ?_ failed
  intro e first
  rw [List.mem_singleton.mp first]
  exact ⟨a, left⟩

/-- An operator whose operands have values ends as it is applied to them. -/
theorem outcome_bin_eq (left : l.outcome ctx = .ok a) (right : r.outcome ctx = .ok b) :
    (bin s op l r).outcome ctx = (applyBinary op a b).map (·.withSpan s) := by
  cases made : applyBinary op a b with
  | ok v => exact outcome_bin left right made
  | error f =>
    have raised : (bin s op l r).Raises ctx f :=
      ⟨[a, b], .cons left (.cons right .nil), by rw [conclude, made]; rfl⟩
    exact outcome_eq_error_iff.mpr (Or.inr raised)

end Operands

/-- What fails first on the left fails the operator, then what fails on the right. Where neither
fails the operator looks at both values, at the left one first and at the right one also where
the left one settles the result. Each value has the span of its operand. -/
theorem evaluate_binary (env : Env) (source : Option Source) (settings : Settings) (s : Span)
    (op : BinOp) (l r : Expr) :
    (∀ f, (evaluate l env source settings).outcome = .error f →
      (evaluate (.bin s op l r) env source settings).outcome = .error f) ∧
    (∀ a f, (evaluate l env source settings).outcome = .ok a →
      (evaluate r env source settings).outcome = .error f →
      (evaluate (.bin s op l r) env source settings).outcome = .error f) ∧
    ∀ a b, (evaluate l env source settings).outcome = .ok a →
      (evaluate r env source settings).outcome = .ok b →
      a.span = some l.span ∧ b.span = some r.span ∧
      op.Verdict a b (evaluate (.bin s op l r) env source settings).outcome := by
  refine ⟨fun f failed => outcome_bin_left_failed failed,
    fun a f left failed => outcome_bin_right_failed left failed, ?_⟩
  intro a b left right
  refine ⟨outcome_span left, outcome_span right, ?_⟩
  have applied : (evaluate (.bin s op l r) env source settings).outcome =
      (applyBinary op a b).map (·.withSpan s) := outcome_bin_eq left right
  rw [applied]
  exact (BinOp.verdict_applyBinary op a b).map _

/-- The left operand alone would settle a conjunction, and the right one is no truth value. In the
difference neither operand is a number, and the left one is reported. -/
theorem evaluate_binary_refused :
    let no : Expr := .lit ⟨0, 5, 0⟩ ⟨"false", none⟩
    let other : Expr := .lit ⟨9, 14, 0⟩ ⟨"True", none⟩
    (evaluate (.bin ⟨0, 14, 0⟩ .and no other) .empty none {}).outcome =
      .error (.error (.conversion ⟨"True", some ⟨9, 14, 0⟩⟩ (Text.ofString "bool") none)) ∧
    (evaluate (.bin ⟨0, 14, 0⟩ .minus no other) .empty none {}).outcome =
      .error (.error (.conversion ⟨"false", some ⟨0, 5, 0⟩⟩ (Text.ofString "f64") none)) := by
  intro no other
  have truth : ((⟨"false", none⟩ : Value).withSpan ⟨0, 5, 0⟩).HasKind .truth := Or.inr rfl
  have noTruth : ¬ ((⟨"True", none⟩ : Value).withSpan ⟨9, 14, 0⟩).HasKind .truth := by
    rintro (same | same) <;> exact absurd same (by decide)
  have noNumber : ¬ ((⟨"false", none⟩ : Value).withSpan ⟨0, 5, 0⟩).HasKind .number := by
    rintro ⟨x, reads⟩
    have refused := Value.asDouble_eq_ok_iff.mp reads
    cases refused
  have conjunction := (evaluate_binary .empty none {} ⟨0, 14, 0⟩ .and no other).2.2 _ _
    outcome_lit outcome_lit
  have difference := (evaluate_binary .empty none {} ⟨0, 14, 0⟩ .minus no other).2.2 _ _
    outcome_lit outcome_lit
  exact ⟨conjunction.2.2.onRight .and truth noTruth, difference.2.2.onLeft .minus noNumber⟩

end Expr

end TextExpr
