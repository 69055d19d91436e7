import TextExpr.Proofs.Failure
import TextExpr.Proofs.Visit

/-!
# When evaluation leaves the language

Without functions of the host, a well-formed tree evaluates to a value or to an error of the
language, unless evaluation compiles a pattern whose flags exclude each other or which has a
bound of too many digits. Then it ends in a fault.
-/
namespace TextExpr.Expr

variable {ctx : Context} {e n : Expr} {t : Text} {fault : Fault}

/-- The node itself compiles this text as a pattern, after its operands gave values. -/
inductive CompilesText (ctx : Context) : Expr → Text → Prop where
  | search {s l r subject pattern} (left : l.outcome ctx = .ok subject)
      (right : r.outcome ctx = .ok pattern) :
      CompilesText ctx (.bin s .regexMatch l r) pattern.text
  | replace {s a b c subject pattern replacement} (first : a.outcome ctx = .ok subject)
      (second : b.outcome ctx = .ok pattern) (third : c.outcome ctx = .ok replacement) :
      CompilesText ctx (.call s Builtin.replaceName [a, b, c]) pattern.text

/-- Evaluation of the tree comes to a node that compiles this text as a pattern. -/
def Compiles (ctx : Context) (e : Expr) (t : Text) : Prop :=
  ∃ n, Visits ctx e n ∧ CompilesText ctx n t

/-- Compiling the text ends in a fault and in no error of the language. -/
def FaultOfPattern (t : Text) (fault : Fault) : Prop :=
  Pattern.compile t = .error .flagConflict ∧ fault = .patternFlags ∨
  ∃ count, Pattern.compile t = .error (.tooManyDigits count) ∧ fault = .digitLimit count

theorem compilePattern_eq_fault_iff :
    compilePattern t = .error (.fault fault) ↔ FaultOfPattern t fault := by
  rw [compilePattern_eq_error_iff, FaultOfPattern]
  simp

/-- A fault of a pattern passes through its node, a call included. -/
theorem CompilesText.raises (compiles : CompilesText ctx n t)
    (refused : compilePattern t = .error (.fault fault)) : n.Raises ctx (.fault fault) := by
  cases compiles with
  | @search s l r subject pattern left right =>
    have failed : matchText subject pattern = .error (.fault fault) :=
      matchText_eq_error_iff.mpr refused
    exact ⟨_, .cons left (.cons right .nil), map_eq_error_iff.mpr failed⟩
  | replace first second third =>
    refine ⟨_, .cons first (.cons second (.cons third .nil)), ?_⟩
    rw [conclude, callFunction_replace, replace_of_refused refused]
    rfl

section Raises

variable {values : List Value} {s : Span}

theorem applyBinary_fault {op : BinOp} {left right : Value} (declared : op.isDeclared = true)
    (failed : applyBinary op left right = .error (.fault fault)) :
    op = .regexMatch ∧ compilePattern right.text = .error (.fault fault) := by
  rcases applyBinary_error failed with ⟨e, isError, _⟩ | refused | ⟨symbol, rfl, _⟩
  · cases isError
  · exact refused
  · cases declared

theorem applyUnary_no_fault {op : UnaryOp} {v : Value} (declared : op.isDeclared = true) :
    applyUnary op v ≠ .error (.fault fault) := by
  intro failed
  rcases applyUnary_error failed with ⟨e, isError, _⟩ | ⟨symbol, rfl, _⟩
  · cases isError
  · cases declared

/-- Without a host only `replace` can end in a fault. -/
theorem callFunction_fault {name : Text}
    (failed : (callFunction name values none).outcome = .error (.fault fault)) :
    name = Builtin.replaceName ∧ ∃ subject pattern replacement,
      values = [subject, pattern, replacement] ∧
      compilePattern pattern.text = .error (.fault fault) := by
  by_cases isRound : name = Builtin.roundName
  · subst isRound
    rw [callFunction_round] at failed
    rcases round_error failed with ⟨isError, _⟩ | ⟨v, _, e, isError, _⟩ <;> cases isError
  by_cases isReplace : name = Builtin.replaceName
  · subst isReplace
    rw [callFunction_replace] at failed
    rcases replace_error failed with ⟨isError, _⟩ | refused
    · cases isError
    · exact ⟨rfl, refused⟩
  rw [callFunction_host isRound isReplace] at failed
  cases failed

theorem locate_eq_fault {f : Failure} (located : f.locate s = .fault fault) :
    f = .fault fault := by
  cases f <;> cases located
  rfl

theorem Raises.compilesText (raises : n.Raises ctx (.fault fault)) (noHost : ctx.source = none)
    (declared : n.operatorDeclared = true) :
    ∃ t, CompilesText ctx n t ∧ compilePattern t = .error (.fault fault) := by
  obtain ⟨values, evaluated, failed⟩ := raises
  cases n with
  | lit s v => cases failed
  | var s name =>
    simp only [conclude] at failed
    split at failed <;> cases failed
  | bin s op l r =>
    obtain ⟨a, b, rfl, left, right⟩ := evaluated.of_bin
    have applied : applyBinary op a b = .error (.fault fault) := map_eq_error_iff.mp failed
    obtain ⟨rfl, refused⟩ := applyBinary_fault declared applied
    exact ⟨b.text, .search left right, refused⟩
  | un s op e =>
    obtain ⟨a, rfl, _⟩ := evaluated.of_un
    have applied : applyUnary op a = .error (.fault fault) := map_eq_error_iff.mp failed
    exact absurd applied (applyUnary_no_fault declared)
  | cond s test yes no =>
    obtain ⟨a, rfl, _⟩ := evaluated.of_cond
    have tested := map_eq_error_iff.mp failed
    obtain ⟨e, _, isError⟩ := mapError_eq_error_iff.mp tested
    cases isError
  | index s c k =>
    obtain ⟨a, b, rfl, _, _⟩ := evaluated.of_index
    have indexed := map_eq_error_iff.mp failed
    obtain ⟨e, _, isError⟩ := mapError_eq_error_iff.mp indexed
    cases isError
  | call s name args =>
    have called := map_eq_error_iff.mp failed
    obtain ⟨g, dispatched, located⟩ := mapError_eq_error_iff.mp called
    rw [noHost, locate_eq_fault located] at dispatched
    obtain ⟨rfl, subject, pattern, replacement, rfl, refused⟩ := callFunction_fault dispatched
    obtain ⟨a, b, c, rfl, first, second, third⟩ := OperandValues.of_three evaluated
    exact ⟨pattern.text, .replace first second third, refused⟩

end Raises

/-- A well-formed tree ends in a fault exactly when evaluation compiles a pattern that is one. -/
theorem evaluate_eq_fault_iff (e : Expr) (env : Env) (settings : Settings) (fault : Fault)
    (wellFormed : e.WellFormed) :
    (evaluate e env none settings).outcome = .error (.fault fault) ↔
      ∃ t, e.Compiles ⟨env, none, settings.trace⟩ t ∧ FaultOfPattern t fault := by
  constructor
  · intro failed
    obtain ⟨n, visits, raises⟩ := outcome_eq_error_iff_raises.mp failed
    obtain ⟨t, compiles, refused⟩ :=
      raises.compilesText rfl (wellFormed n visits.mem_nodes)
    exact ⟨t, ⟨n, visits, compiles⟩, compilePattern_eq_fault_iff.mp refused⟩
  · rintro ⟨t, ⟨n, visits, compiles⟩, refused⟩
    exact outcome_eq_error_iff_raises.mpr
      ⟨n, visits, compiles.raises (compilePattern_eq_fault_iff.mpr refused)⟩

/-- A call whose pattern asks for both alphabets. -/
def conflictingReplace : Expr :=
  .call ⟨0, 30, 0⟩ "replace" [.lit ⟨8, 11, 0⟩ ⟨"a", none⟩, .lit ⟨13, 24, 0⟩ ⟨"(?a)(?u)x", none⟩,
    .lit ⟨26, 29, 0⟩ ⟨"b", none⟩]

theorem evaluate_conflictingReplace :
    conflictingReplace.WellFormed ∧
    ((evaluate conflictingReplace .empty none {}).outcome = .error (.fault .patternFlags) ↔
      ∃ t, conflictingReplace.Compiles ⟨.empty, none, false⟩ t ∧ FaultOfPattern t .patternFlags) :=
  have wellFormed : conflictingReplace.WellFormed := by decide +kernel
  ⟨wellFormed, evaluate_eq_fault_iff conflictingReplace .empty {} .patternFlags wellFormed⟩

/-- A well-formed tree without host functions need not stay inside the language. -/
theorem wellFormed_faults :
    conflictingReplace.WellFormed ∧
    (evaluate conflictingReplace .empty none {}).outcome = .error (.fault .patternFlags) := by
  decide +kernel

end TextExpr.Expr
