import TextExpr.Eval
import TextExpr.Proofs.Run
import TextExpr.Proofs.Tree

/-!
# What an evaluation ends in

The outcome of a run does not depend on what it writes, and all node kinds go through one
equation: the operands are evaluated from left to right, and then the node concludes, with a
value or with the branch that it takes.
-/
namespace TextExpr

@[simp] theorem outcome_finish (ctx : Context) (node : Expr) (v : Value) :
    (finish ctx node v).outcome = .ok (v.withSpan node.span) := by
  unfold finish
  split <;> rfl

namespace Expr

/-- What an evaluation ends in, whatever it writes. -/
abbrev outcome (ctx : Context) (e : Expr) : Except Failure Value := (e.eval ctx).outcome

/-- A node ends in a value at its span, or goes on with one of its branches. -/
inductive Conclusion where
  | value (v : Value)
  | branch (e : Expr)

/-- What a node makes of the values of its operands. No other number of values arises. -/
def conclude (ctx : Context) : Expr → List Value → Except Failure Conclusion
  | .lit s v, _ => .ok (.value (v.withSpan s))
  | .var s name, _ =>
    match ctx.env name with
    | some v => .ok (.value (v.withSpan s))
    | none => .error (.error ((EvalError.unresolvedVariable name).within s))
  | .bin s op _ _, [left, right] =>
    (applyBinary op left right).map fun v => .value (v.withSpan s)
  | .un s op _, [operand] => (applyUnary op operand).map fun v => .value (v.withSpan s)
  | .cond _ _ yes no, [test] =>
    (test.asBool.mapError .error).map fun b => .branch (if b then yes else no)
  | .index s _ _, [container, key] =>
    ((indexValue s container key).mapError .error).map fun v => .value (v.withSpan s)
  | .call s name _, values =>
    ((callFunction name values ctx.source).outcome.mapError (.locate s)).map fun v =>
      .value (v.withSpan s)
  | _, _ => .error (.fault .missingExpression)

/-- How a conclusion ends. The value of a branch is moved to the span of the node. -/
def Conclusion.outcome (ctx : Context) (s : Span) : Conclusion → Except Failure Value
  | value v => .ok v
  | branch e => (e.outcome ctx).map (·.withSpan s)

theorem evalAll_outcome (ctx : Context) (es : List Expr) :
    (evalAll ctx es).outcome = es.mapM (outcome ctx) := by
  induction es with
  | nil => rfl
  | cons e rest ih =>
    rw [evalAll, List.mapM_cons]
    simp only [Run.outcome_bind, Run.outcome_pure, ih]
    rfl

/-- The equation of evaluation. -/
theorem outcome_eq (ctx : Context) (e : Expr) :
    e.outcome ctx = e.operands.mapM (outcome ctx) >>= fun values =>
      e.conclude ctx values >>= fun conclusion => conclusion.outcome ctx e.span := by
  cases e with
  | lit s v => exact outcome_finish ctx (.lit s v) v
  | var s name =>
    simp only [outcome, eval, conclude]
    cases ctx.env name with
    | none => rfl
    | some v => exact outcome_finish ctx (.var s name) v
  | bin s op l r =>
    simp [outcome, eval, operands, children, conclude, bind_map, Conclusion.outcome, span]
  | un s op e =>
    simp [outcome, eval, operands, children, conclude, bind_map, Conclusion.outcome, span]
  | cond s c t e =>
    have branch : ∀ b : Bool, (if b then eval ctx t >>= finish ctx (.cond s c t e)
        else eval ctx e >>= finish ctx (.cond s c t e)).outcome =
        (Conclusion.branch (if b then t else e)).outcome ctx s := by
      intro b
      cases b <;> simp [Conclusion.outcome, map_eq_bind, span]
    simp [outcome, eval, operands, conclude, bind_map, branch, span]
  | index s c k =>
    simp [outcome, eval, operands, children, conclude, bind_map, Conclusion.outcome, span]
  | call s name args =>
    simp [outcome, eval, operands, children, conclude, bind_map, evalAll_outcome,
      Conclusion.outcome, span]

/-- The values that the operands of a node have, in their order. -/
def OperandValues (ctx : Context) (e : Expr) (values : List Value) : Prop :=
  List.Forall₂ (fun c v => c.outcome ctx = .ok v) e.operands values

namespace OperandValues

variable {ctx : Context} {s : Span} {values : List Value}

theorem of_bin {op : BinOp} {l r : Expr}
    (evaluated : (Expr.bin s op l r).OperandValues ctx values) :
    ∃ a b, values = [a, b] ∧ l.outcome ctx = .ok a ∧ r.outcome ctx = .ok b := by
  obtain ⟨a, _, left, tail, rfl⟩ := List.forall₂_cons_left_iff.mp evaluated
  obtain ⟨b, _, right, rest, rfl⟩ := List.forall₂_cons_left_iff.mp tail
  cases rest
  exact ⟨a, b, rfl, left, right⟩

theorem of_un {op : UnaryOp} {e : Expr} (evaluated : (Expr.un s op e).OperandValues ctx values) :
    ∃ a, values = [a] ∧ e.outcome ctx = .ok a := by
  obtain ⟨a, _, operand, rest, rfl⟩ := List.forall₂_cons_left_iff.mp evaluated
  cases rest
  exact ⟨a, rfl, operand⟩

theorem of_cond {test yes no : Expr}
    (evaluated : (Expr.cond s test yes no).OperandValues ctx values) :
    ∃ a, values = [a] ∧ test.outcome ctx = .ok a := by
  obtain ⟨a, _, ended, rest, rfl⟩ := List.forall₂_cons_left_iff.mp evaluated
  cases rest
  exact ⟨a, rfl, ended⟩

theorem of_index {c k : Expr} (evaluated : (Expr.index s c k).OperandValues ctx values) :
    ∃ a b, values = [a, b] ∧ c.outcome ctx = .ok a ∧ k.outcome ctx = .ok b := by
  obtain ⟨a, _, container, tail, rfl⟩ := List.forall₂_cons_left_iff.mp evaluated
  obtain ⟨b, _, key, rest, rfl⟩ := List.forall₂_cons_left_iff.mp tail
  cases rest
  exact ⟨a, b, rfl, container, key⟩

/-- The arguments of a call that is given three values. -/
theorem of_three {args : List Expr} {a b c : Value}
    (evaluated : List.Forall₂ (fun e v => e.outcome ctx = .ok v) args [a, b, c]) :
    ∃ x y z, args = [x, y, z] ∧ x.outcome ctx = .ok a ∧ y.outcome ctx = .ok b ∧
      z.outcome ctx = .ok c := by
  obtain ⟨x, _, first, tail, rfl⟩ := List.forall₂_cons_right_iff.mp evaluated
  obtain ⟨y, _, second, tail', rfl⟩ := List.forall₂_cons_right_iff.mp tail
  obtain ⟨z, _, third, rest, rfl⟩ := List.forall₂_cons_right_iff.mp tail'
  cases rest
  exact ⟨x, y, z, rfl, first, second, third⟩

end OperandValues

theorem outcome_eq_ok_iff {ctx : Context} {e : Expr} {v : Value} :
    e.outcome ctx = .ok v ↔ ∃ values conclusion, e.OperandValues ctx values ∧
      e.conclude ctx values = .ok conclusion ∧ conclusion.outcome ctx e.span = .ok v := by
  rw [outcome_eq, bind_eq_ok_iff]
  simp only [bind_eq_ok_iff, mapM_eq_ok_iff]
  constructor
  · rintro ⟨values, evaluated, conclusion, concluded, ended⟩
    exact ⟨values, conclusion, evaluated, concluded, ended⟩
  · rintro ⟨values, conclusion, evaluated, concluded, ended⟩
    exact ⟨values, evaluated, conclusion, concluded, ended⟩

theorem span_of_moved {x : Except Failure Value} {s : Span} {v : Value}
    (moved : (x.map fun w => Conclusion.value (w.withSpan s)) = .ok (.value v)) :
    v.span = some s := by
  obtain ⟨w, _, h⟩ := map_eq_ok_iff.mp moved
  cases h
  rfl

theorem conclude_span {ctx : Context} {e : Expr} {values : List Value} {v : Value}
    (evaluated : e.OperandValues ctx values)
    (concluded : e.conclude ctx values = .ok (.value v)) : v.span = some e.span := by
  cases e with
  | lit s w =>
    cases concluded
    rfl
  | var s name =>
    simp only [conclude] at concluded
    split at concluded
    · cases concluded
      rfl
    · cases concluded
  | bin s op l r =>
    obtain ⟨a, b, rfl, _, _⟩ := evaluated.of_bin
    exact span_of_moved concluded
  | un s op e =>
    obtain ⟨a, rfl, _⟩ := evaluated.of_un
    exact span_of_moved concluded
  | cond s test yes no =>
    obtain ⟨a, rfl, _⟩ := evaluated.of_cond
    obtain ⟨b, _, isBranch⟩ := map_eq_ok_iff.mp concluded
    cases isBranch
  | index s c k =>
    obtain ⟨a, b, rfl, _, _⟩ := evaluated.of_index
    exact span_of_moved concluded
  | call s name args => exact span_of_moved concluded

theorem not_branch_of_moved {x : Except Failure Value} {s : Span} {b : Expr} :
    (x.map fun w => Conclusion.value (w.withSpan s)) ≠ .ok (.branch b) := by
  intro h
  obtain ⟨w, _, h⟩ := map_eq_ok_iff.mp h
  cases h

/-- Only a conditional goes on with a branch, and its test says with which. -/
theorem conclude_branch {ctx : Context} {e b : Expr} {values : List Value}
    (evaluated : e.OperandValues ctx values) (taken : e.conclude ctx values = .ok (.branch b)) :
    ∃ s test yes no v t, e = .cond s test yes no ∧ values = [v] ∧ v.asBool = .ok t ∧
      b = if t then yes else no := by
  cases e with
  | lit s w => cases taken
  | var s name =>
    simp only [conclude] at taken
    split at taken <;> cases taken
  | bin s op l r =>
    obtain ⟨a, b, rfl, _, _⟩ := evaluated.of_bin
    exact absurd taken not_branch_of_moved
  | un s op e =>
    obtain ⟨a, rfl, _⟩ := evaluated.of_un
    exact absurd taken not_branch_of_moved
  | cond s test yes no =>
    obtain ⟨v, rfl, _⟩ := evaluated.of_cond
    obtain ⟨t, truth, same⟩ := map_eq_ok_iff.mp taken
    cases same
    exact ⟨s, test, yes, no, v, t, rfl, rfl, mapError_eq_ok_iff.mp truth, rfl⟩
  | index s c k =>
    obtain ⟨a, b, rfl, _, _⟩ := evaluated.of_index
    exact absurd taken not_branch_of_moved
  | call s name args => exact absurd taken not_branch_of_moved

/-- A value has the span of the node that it was evaluated from. -/
theorem outcome_span {ctx : Context} {e : Expr} {v : Value} (ended : e.outcome ctx = .ok v) :
    v.span = some e.span := by
  obtain ⟨values, conclusion, evaluated, concluded, ended⟩ := outcome_eq_ok_iff.mp ended
  cases conclusion with
  | value w =>
    cases ended
    exact conclude_span evaluated concluded
  | branch b =>
    obtain ⟨w, _, rfl⟩ := map_eq_ok_iff.mp ended
    rfl

section Endings

variable {ctx : Context} {s : Span} {v : Value} {e l r : Expr}

/-- A node whose operands have values ends in the value that it makes of them. -/
theorem outcome_of_operands {values : List Value} (evaluated : e.OperandValues ctx values)
    (concludes : e.conclude ctx values = .ok (.value v)) : e.outcome ctx = .ok v :=
  outcome_eq_ok_iff.mpr ⟨values, _, evaluated, concludes, rfl⟩

theorem outcome_lit : (lit s v).outcome ctx = .ok (v.withSpan s) := outcome_finish ctx _ _

theorem outcome_var {name : Text} (bound : ctx.env name = some v) :
    (var s name).outcome ctx = .ok (v.withSpan s) :=
  outcome_of_operands .nil (by simp only [conclude, bound])

theorem outcome_bin {op : BinOp} {a b : Value} (onLeft : l.outcome ctx = .ok a)
    (onRight : r.outcome ctx = .ok b) (made : applyBinary op a b = .ok v) :
    (bin s op l r).outcome ctx = .ok (v.withSpan s) :=
  outcome_of_operands (.cons onLeft (.cons onRight .nil)) (by rw [conclude, made]; rfl)

theorem outcome_un {op : UnaryOp} {a : Value} (operand : e.outcome ctx = .ok a)
    (made : applyUnary op a = .ok v) : (un s op e).outcome ctx = .ok (v.withSpan s) :=
  outcome_of_operands (.cons operand .nil) (by rw [conclude, made]; rfl)

theorem outcome_cond {test yes no : Expr} {a : Value} {b : Bool}
    (condition : test.outcome ctx = .ok a) (truth : a.asBool = .ok b)
    (taken : (if b then yes else no).outcome ctx = .ok v) :
    (cond s test yes no).outcome ctx = .ok (v.withSpan s) :=
  outcome_eq_ok_iff.mpr ⟨[a], .branch (if b then yes else no), .cons condition .nil,
    by rw [conclude, truth]; rfl, by rw [Conclusion.outcome, taken]; rfl⟩

theorem outcome_index {a b : Value} (container : l.outcome ctx = .ok a)
    (key : r.outcome ctx = .ok b) (found : indexValue s a b = .ok v) :
    (index s l r).outcome ctx = .ok (v.withSpan s) :=
  outcome_of_operands (.cons container (.cons key .nil)) (by rw [conclude, found]; rfl)

/-- A call whose arguments have values ends as its function does, at the span of the call. -/
theorem outcome_call {name : Text} {args : List Expr} {values : List Value}
    (evaluated : (call s name args).OperandValues ctx values) :
    (call s name args).outcome ctx =
      ((callFunction name values ctx.source).outcome.mapError (.locate s)).map (·.withSpan s) := by
  have traversed : (call s name args).operands.mapM (outcome ctx) = .ok values :=
    mapM_eq_ok_iff.mpr evaluated
  rw [outcome_eq, traversed]
  simp only [bind, Except.bind, conclude]
  cases (callFunction name values ctx.source).outcome <;> rfl

end Endings

end Expr

end TextExpr
