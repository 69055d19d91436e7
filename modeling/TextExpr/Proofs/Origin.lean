import TextExpr.Proofs.Failure
import TextExpr.Proofs.Visit

/-!
# Where an error comes from

An error comes from one node of the tree, which fails with it also when it is evaluated alone,
and no node around it changes the error. What the error says and which spans it carries is
told for each kind of node.
-/
namespace TextExpr

/-- The error is about a variable, which it names. -/
def EvalError.isOfVariable : EvalError → Bool
  | noVariablesAllowed _ | unresolvedVariable _ | unknownVariable _ => true
  | _ => false

namespace Expr

variable {ctx : Context} {n c : Expr} {f : Failure} {error : EvalError}

/-- One of these parts has a value that cannot be read, and the error points at that part. -/
def RejectsPart (ctx : Context) (parts : List Expr) (error : EvalError) : Prop :=
  ∃ c ∈ parts, ∃ v, c.outcome ctx = .ok v ∧ error.Rejects v ∧ error.spans = [c.span]

/-- The value of a part is refused as a pattern, which points nowhere. -/
def InvalidPattern (ctx : Context) (part : Expr) (error : EvalError) : Prop :=
  ∃ v reason, part.outcome ctx = .ok v ∧
    compilePattern v.text = .error (.error (.invalidRegex reason)) ∧
    error = .invalidRegex reason ∧ error.spans = []

/-- A function of the host, given the values of the arguments, fails with the error. -/
def HostRaises (ctx : Context) (name : Text) (args : List Expr) (inner : EvalError) : Prop :=
  ∃ source values f, ctx.source = some source ∧
    List.Forall₂ (fun a v => a.outcome ctx = .ok v) args values ∧
    (source.run name values).outcome = .error f ∧ f.error? = some inner

/-- The error of a call before the call puts its own span around it. -/
def DispatchRaises (ctx : Context) (name : Text) (args : List Expr) (inner : EvalError) : Prop :=
  if name = Builtin.roundName then
    args.length ≠ 2 ∧ inner = .wrongArgCount name ∧ inner.spans = [] ∨
    RejectsPart ctx args inner
  else if name = Builtin.replaceName then
    args.length ≠ 3 ∧ inner = .wrongArgCount name ∧ inner.spans = [] ∨
    ∃ subject pattern replacement, args = [subject, pattern, replacement] ∧
      InvalidPattern ctx pattern inner
  else
    inner = .unknownFunction name ∧ inner.spans = [] ∨ HostRaises ctx name args inner

/-- What an error says that a node raises, and its spans. -/
def ErrorAt (ctx : Context) (error : EvalError) : Expr → Prop
  | .lit .. => False
  | .var s name =>
    ctx.env name = none ∧ error.root = .unresolvedVariable name ∧ error.spans = [s]
  | .bin _ op l r =>
    RejectsPart ctx [l, r] error ∨ op = .regexMatch ∧ InvalidPattern ctx r error
  | .un _ _ e => RejectsPart ctx [e] error
  | .cond _ test _ _ => RejectsPart ctx [test] error
  | .index s c k =>
    RejectsPart ctx [c, k] error ∨
    ∃ v j, c.outcome ctx = .ok v ∧ v.asJson = .ok j ∧ j.IsScalar ∧
      error.root = .cannotIndex v.text ∧ error.spans = [s]
  | .call s name args =>
    ∃ inner, DispatchRaises ctx name args inner ∧ error = inner.within s ∧
      error.spans = s :: inner.spans

theorem rejectsPart_of_value {parts : List Expr} {v : Value} (part : c ∈ parts)
    (ended : c.outcome ctx = .ok v) (rejects : error.Rejects v) :
    RejectsPart ctx parts error := by
  refine ⟨c, part, v, ended, rejects, ?_⟩
  obtain ⟨target, cause, rfl⟩ := rejects
  simp [EvalError.spans, outcome_span ended]

theorem invalidPattern_of_refused {v : Value} (ended : c.outcome ctx = .ok v)
    (refused : compilePattern v.text = .error f) (raised : f.error? = some error) :
    InvalidPattern ctx c error := by
  rcases compilePattern_eq_error_iff.mp refused with
    ⟨_, rfl⟩ | ⟨count, _, rfl⟩ | ⟨r, _, _, rfl⟩
  · cases raised
  · cases raised
  · cases raised
    exact ⟨v, _, ended, refused, rfl, rfl⟩

theorem RejectsPart.root_isOfVariable {parts : List Expr}
    (rejects : RejectsPart ctx parts error) : error.root.isOfVariable = false := by
  obtain ⟨_, _, _, _, ⟨target, cause, rfl⟩, _⟩ := rejects
  rfl

theorem InvalidPattern.root_isOfVariable {part : Expr}
    (invalid : InvalidPattern ctx part error) : error.root.isOfVariable = false := by
  obtain ⟨_, reason, _, _, rfl, _⟩ := invalid
  rfl

section Dispatch

variable {name : Text} {args : List Expr} {values : List Value} {inner : EvalError}

theorem dispatchRaises_round
    (evaluated : List.Forall₂ (fun a v => a.outcome ctx = .ok v) args values)
    (failed : Builtin.round values = .error f) (raised : f.error? = some inner) :
    DispatchRaises ctx Builtin.roundName args inner := by
  rw [DispatchRaises, if_pos rfl]
  rcases round_error failed with ⟨rfl, length⟩ | ⟨v, member, e, rfl, rejects⟩
  · cases raised
    exact Or.inl ⟨evaluated.length_eq ▸ length, rfl, rfl⟩
  · cases raised
    obtain ⟨c, part, ended⟩ := exists_of_mem_right evaluated member
    exact Or.inr (rejectsPart_of_value part ended rejects)

theorem dispatchRaises_replace
    (evaluated : List.Forall₂ (fun a v => a.outcome ctx = .ok v) args values)
    (failed : Builtin.replace values = .error f) (raised : f.error? = some inner) :
    DispatchRaises ctx Builtin.replaceName args inner := by
  rw [DispatchRaises, if_neg (by decide), if_pos rfl]
  rcases replace_error failed with ⟨rfl, length⟩ | ⟨subject, pattern, replacement, rfl, refused⟩
  · cases raised
    exact Or.inl ⟨evaluated.length_eq ▸ length, rfl, rfl⟩
  · obtain ⟨a, b, c, rfl, _, ended, _⟩ := OperandValues.of_three evaluated
    exact Or.inr ⟨a, b, c, rfl, invalidPattern_of_refused ended refused raised⟩

theorem dispatchRaises_of_failed
    (evaluated : List.Forall₂ (fun a v => a.outcome ctx = .ok v) args values)
    (failed : (callFunction name values ctx.source).outcome = .error f)
    (raised : f.error? = some inner) : DispatchRaises ctx name args inner := by
  by_cases isRound : name = Builtin.roundName
  · subst isRound
    exact dispatchRaises_round evaluated failed raised
  by_cases isReplace : name = Builtin.replaceName
  · subst isReplace
    exact dispatchRaises_replace evaluated failed raised
  rw [callFunction_host isRound isReplace] at failed
  rw [DispatchRaises, if_neg isRound, if_neg isReplace]
  rcases callHost_error failed with rfl | ⟨source, found, failed⟩
  · cases raised
    exact Or.inl ⟨rfl, rfl⟩
  · exact Or.inr ⟨source, values, f, found, evaluated, failed, raised⟩

end Dispatch

/-- The error and its spans follow from the node that raises it. -/
theorem Raises.errorAt (raises : n.Raises ctx f) (raised : f.error? = some error) :
    ErrorAt ctx error n := by
  obtain ⟨values, evaluated, failed⟩ := raises
  cases n with
  | lit s v => cases failed
  | var s name =>
    simp only [conclude] at failed
    split at failed
    · cases failed
    next unbound =>
      cases failed
      cases raised
      exact ⟨unbound, rfl, rfl⟩
  | bin s op l r =>
    obtain ⟨a, b, rfl, left, right⟩ := evaluated.of_bin
    have applied : applyBinary op a b = .error f := map_eq_error_iff.mp failed
    rcases applyBinary_error applied with
      ⟨e, rfl, rejects⟩ | ⟨rfl, refused⟩ | ⟨symbol, _, rfl⟩
    · cases raised
      rcases rejects with rejects | rejects
      · exact Or.inl (rejectsPart_of_value (by simp) left rejects)
      · exact Or.inl (rejectsPart_of_value (by simp) right rejects)
    · exact Or.inr ⟨rfl, invalidPattern_of_refused right refused raised⟩
    · cases raised
  | un s op e =>
    obtain ⟨a, rfl, operand⟩ := evaluated.of_un
    have applied : applyUnary op a = .error f := map_eq_error_iff.mp failed
    rcases applyUnary_error applied with ⟨e', rfl, rejects⟩ | ⟨symbol, _, rfl⟩
    · cases raised
      exact rejectsPart_of_value (by simp) operand rejects
    · cases raised
  | cond s test yes no =>
    obtain ⟨a, rfl, ended⟩ := evaluated.of_cond
    have tested : a.asBool.mapError .error = .error f := map_eq_error_iff.mp failed
    obtain ⟨e, rejected, rfl⟩ := mapError_eq_error_iff.mp tested
    cases raised
    exact rejectsPart_of_value (by simp) ended (readsText_asBool.rejects rejected)
  | index s c k =>
    obtain ⟨a, b, rfl, container, key⟩ := evaluated.of_index
    have indexed : (indexValue s a b).mapError .error = .error f := map_eq_error_iff.mp failed
    obtain ⟨e, rejected, rfl⟩ := mapError_eq_error_iff.mp indexed
    cases raised
    rcases indexValue_error rejected with rejects | rejects | ⟨⟨j, read, scalar⟩, rfl⟩
    · exact Or.inl (rejectsPart_of_value (by simp) container rejects)
    · exact Or.inl (rejectsPart_of_value (by simp) key rejects)
    · exact Or.inr ⟨a, j, container, read, scalar, rfl, rfl⟩
  | call s name args =>
    have called := map_eq_error_iff.mp failed
    obtain ⟨g, dispatched, rfl⟩ := mapError_eq_error_iff.mp called
    rw [error?_locate] at raised
    obtain ⟨inner, origin, rfl⟩ := Option.map_eq_some_iff.mp raised
    exact ⟨inner, dispatchRaises_of_failed evaluated dispatched origin, rfl, rfl⟩

/-- Built-in functions and missing functions never speak of a variable. -/
theorem DispatchRaises.hostRaises {name : Text} {args : List Expr} {inner : EvalError}
    (raised : DispatchRaises ctx name args inner) (root : inner.root.isOfVariable = true) :
    HostRaises ctx name args inner := by
  unfold DispatchRaises at raised
  split at raised
  · rcases raised with ⟨_, rfl, _⟩ | rejects
    · cases root
    · exact absurd root (by simp [rejects.root_isOfVariable])
  split at raised
  · rcases raised with ⟨_, rfl, _⟩ | ⟨_, _, _, _, invalid⟩
    · cases root
    · exact absurd root (by simp [invalid.root_isOfVariable])
  · rcases raised with ⟨rfl, _⟩ | raised
    · cases root
    · exact raised

/-- Only variables without a value and functions of the host raise errors about variables. -/
theorem ErrorAt.of_variable (raised : ErrorAt ctx error n)
    (root : error.root.isOfVariable = true) :
    (∃ s name, n = .var s name ∧ ctx.env name = none ∧
      error.root = .unresolvedVariable name ∧ error.spans = [s]) ∨
    ∃ s callee args inner, n = .call s callee args ∧ HostRaises ctx callee args inner ∧
      error = inner.within s := by
  have notRejected : ∀ {parts}, ¬ RejectsPart ctx parts error := fun rejects => by
    rw [rejects.root_isOfVariable] at root
    cases root
  cases n with
  | lit s v => exact raised.elim
  | var s name => exact Or.inl ⟨s, name, rfl, raised⟩
  | bin s op l r =>
    rcases raised with rejects | ⟨_, invalid⟩
    · exact absurd rejects notRejected
    · rw [invalid.root_isOfVariable] at root
      cases root
  | un s op e => exact absurd raised notRejected
  | cond s c t e => exact absurd raised notRejected
  | index s c k =>
    rcases raised with rejects | ⟨_, _, _, _, _, other, _⟩
    · exact absurd rejects notRejected
    · rw [other] at root
      cases root
  | call s callee args =>
    obtain ⟨inner, raised, rfl, _⟩ := raised
    exact Or.inr ⟨s, callee, args, inner, rfl, raised.hostRaises root, rfl⟩

/-- The parts that a node evaluates before it fails by itself are its operands. -/
theorem Raises.enters_iff (raises : n.Raises ctx f) : Enters ctx n c ↔ c ∈ n.operands := by
  obtain ⟨values, evaluated, failed⟩ := raises
  constructor
  · intro enters
    cases enters with
    | operand split _ =>
      rw [split]
      simp
    | branch evaluated' taken =>
      rw [evaluated.unique evaluated', taken] at failed
      cases failed
  · intro operand
    obtain ⟨before, after, split⟩ := List.append_of_mem operand
    refine .operand split fun b earlier => ?_
    have operand : b ∈ n.operands := by simp [split, earlier]
    obtain ⟨v, _, ended⟩ := exists_of_mem_left evaluated operand
    exact ⟨v, ended⟩

/-- The node fails with `f` when it is evaluated alone, after its operands and no other part
of it gave values. -/
structure Origin (ctx : Context) (f : Failure) (n : Expr) : Prop where
  fails : (n.eval ctx).outcome = .error f
  enters_iff : ∀ c, n.Enters ctx c ↔ c ∈ n.operands
  succeed : ∀ c ∈ n.operands, ∃ v, (c.eval ctx).outcome = .ok v
  errorAt : ∀ error, f.error? = some error → ErrorAt ctx error n

theorem Raises.origin (raises : n.Raises ctx f) : Origin ctx f n where
  fails := outcome_eq_error_iff.mpr (Or.inr raises)
  enters_iff := fun _ => raises.enters_iff
  succeed := by
    intro c operand
    obtain ⟨values, evaluated, _⟩ := raises
    obtain ⟨v, _, ended⟩ := exists_of_mem_left evaluated operand
    exact ⟨v, ended⟩
  errorAt := fun _ raised => raises.errorAt raised

/-- Every failure comes from one node of the tree, and nothing around the node changes it. -/
theorem exists_origin (e : Expr) (env : Env) (source : Option Source) (settings : Settings)
    (f : Failure) (failed : (evaluate e env source settings).outcome = .error f) :
    ∃ n ∈ e.nodes, Origin ⟨env, source, settings.trace⟩ f n := by
  obtain ⟨n, visits, raises⟩ := outcome_eq_error_iff_raises.mp failed
  exact ⟨n, visits.mem_nodes, raises.origin⟩

/-- A call in a branch that is taken: the error has the span of the call and that of the
argument, and the conditional adds none. -/
theorem exists_origin_in_branch :
    let e : Expr := .cond ⟨0, 37, 0⟩ (.lit ⟨3, 9, 0⟩ ⟨"true", none⟩)
      (.call ⟨15, 30, 0⟩ "round" [.lit ⟨21, 24, 0⟩ ⟨"x", none⟩, .lit ⟨26, 29, 0⟩ ⟨"2", none⟩])
      (.var ⟨36, 37, 0⟩ "y")
    let error : EvalError := .conversion ⟨"x", some ⟨21, 24, 0⟩⟩ "f64" none
    let f : Failure := .reported (error.within ⟨15, 30, 0⟩) (.error error)
    (evaluate e .empty none {}).outcome = .error f ∧
      ∃ n ∈ e.nodes, Origin ⟨.empty, none, false⟩ f n := by
  intro e error f
  have failed : (evaluate e .empty none {}).outcome = .error f := by decide +kernel
  exact ⟨failed, exists_origin e .empty none {} f failed⟩

end Expr

end TextExpr
