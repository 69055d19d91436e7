import TextExpr.Proofs.Substitution

/-!
# Where variables are not available

A function of the host may put values into trees of its own and evaluate them, and so may the
functions that those trees call. If one of them does not know a variable, evaluation says so
through all the calls on the way. Where variables are not available this is reported as a variable
that is not allowed, at the call of the tree itself, and nothing else is changed.
-/
namespace TextExpr.Expr

variable {ctx : Context} {e : Expr} {f : Failure} {error : EvalError} {s : Span} {name : Text}

/-- Evaluation comes to a call at the span, its arguments have values, and the function that it
names ends in a failure, which the call locates. -/
def CallRaises (ctx : Context) (e : Expr) (s : Span) (f : Failure) : Prop :=
  ∃ callee args values g, Visits ctx e (.call s callee args) ∧
    (call s callee args).OperandValues ctx values ∧
    (callFunction callee values ctx.source).outcome = .error g ∧ f = g.locate s

theorem callRaises_of_raises {callee : Text} {args : List Expr}
    (visits : Visits ctx e (.call s callee args)) (raises : (call s callee args).Raises ctx f) :
    CallRaises ctx e s f := by
  obtain ⟨values, evaluated, failed⟩ := raises
  have called : (callFunction callee values ctx.source).outcome.mapError (.locate s) = .error f :=
    map_eq_error_iff.mp failed
  obtain ⟨g, dispatched, located⟩ := mapError_eq_error_iff.mp called
  exact ⟨callee, args, values, g, visits, evaluated, dispatched, located.symm⟩

/-- An unknown variable surfaces only through a call of the tree, which puts its span around it. -/
theorem callRaises_of_unknown (failed : e.outcome ctx = .error f)
    (unknown : UnknownVariable f error name) :
    ∃ s, CallRaises ctx e s f ∧ error.span? = some s := by
  obtain ⟨n, visits, raises⟩ := outcome_eq_error_iff_raises.mp failed
  obtain ⟨raised, root⟩ := unknown
  obtain ⟨s, callee, args, inner, rfl, _, rfl⟩ := (raises.errorAt raised).hostRaises root
  exact ⟨s, callRaises_of_raises visits raises, rfl⟩

theorem CallRaises.mem_nodes (raises : CallRaises ctx e s f) :
    ∃ callee args, .call s callee args ∈ e.nodes := by
  obtain ⟨callee, args, _, _, visits, _⟩ := raises
  exact ⟨callee, args, visits.mem_nodes⟩

theorem forbidVariables_reported (unknown : UnknownVariable f error name) :
    ∃ answer, forbidVariables f = .reported answer f ∧ answer.root = .noVariablesAllowed name := by
  cases located : error.span? with
  | some s => exact ⟨_, forbidVariables_of_unknown unknown located, rfl⟩
  | none =>
    obtain ⟨raised, root⟩ := unknown
    refine ⟨.noVariablesAllowed name, ?_, rfl⟩
    simp only [forbidVariables, raised, root, located]

/-- What is reported without variables never has an unknown variable at its root. -/
theorem not_unknownVariable_forbidVariables : ¬ UnknownVariable (forbidVariables f) error name := by
  intro ⟨raised, root⟩
  by_cases unknown : ∃ error' name', UnknownVariable f error' name'
  · obtain ⟨error', name', unknown⟩ := unknown
    obtain ⟨answer, reported, root'⟩ := forbidVariables_reported unknown
    rw [reported] at raised
    cases raised
    cases root.symm.trans root'
  · have other : ∀ error' name', ¬ UnknownVariable f error' name' := by
      intro error' name' same
      exact unknown ⟨error', name', same⟩
    rw [forbidVariables_of_other other] at raised
    exact other error name ⟨raised, root⟩

theorem evaluateNoVars_outcome (e : Expr) (source : Option Source) (settings : Settings) :
    (evaluateNoVars e source settings).outcome =
      (evaluate e .empty source settings).outcome.mapError forbidVariables :=
  Run.outcome_mapFailure _ _

/-- Without variables an unknown variable is never the root of an error. In its place stands a
variable that is not allowed, with a single span: that of the call of the tree whose function
failed. All other outcomes are the same, and so is what is written to the log. -/
theorem evaluateNoVars_forbids (e : Expr) (source : Option Source) (settings : Settings) :
    (∀ f error name, (evaluateNoVars e source settings).outcome = .error f →
      ¬ UnknownVariable f error name) ∧
    (∀ f error name, (evaluate e .empty source settings).outcome = .error f →
      UnknownVariable f error name →
      ∃ s answer, (∃ callee args, .call s callee args ∈ e.nodes) ∧
        CallRaises ⟨.empty, source, settings.trace⟩ e s f ∧
        answer = (EvalError.noVariablesAllowed name).within s ∧ answer.spans = [s] ∧
        (evaluateNoVars e source settings).outcome = .error (.reported answer f)) ∧
    ((∀ f error name, (evaluate e .empty source settings).outcome = .error f →
        ¬ UnknownVariable f error name) →
      (evaluateNoVars e source settings).outcome = (evaluate e .empty source settings).outcome) ∧
    (evaluateNoVars e source settings).log = (evaluate e .empty source settings).log ∧
    (evaluateNoVars e none settings).outcome = (evaluate e .empty none settings).outcome := by
  have unchanged : ∀ source, (∀ f error name,
      (evaluate e .empty source settings).outcome = .error f → ¬ UnknownVariable f error name) →
      (evaluateNoVars e source settings).outcome =
        (evaluate e .empty source settings).outcome := by
    intro source other
    rw [evaluateNoVars_outcome]
    cases ended : (evaluate e .empty source settings).outcome with
    | ok v => rfl
    | error f =>
      have same := forbidVariables_of_other fun error name => other f error name ended
      exact congrArg Except.error same
  refine ⟨?_, ?_, unchanged source, rfl, unchanged none ?_⟩
  · intro f error name failed
    rw [evaluateNoVars_outcome] at failed
    obtain ⟨g, _, rfl⟩ := mapError_eq_error_iff.mp failed
    exact not_unknownVariable_forbidVariables
  · intro f error name failed unknown
    obtain ⟨s, raises, located⟩ := callRaises_of_unknown failed unknown
    refine ⟨s, _, raises.mem_nodes, raises, rfl, rfl, ?_⟩
    rw [evaluateNoVars_outcome, failed]
    exact congrArg Except.error (forbidVariables_of_unknown unknown located)
  · -- Without a host there is no function that could speak of a variable.
    intro f error name failed unknown
    obtain ⟨n, visits, raises⟩ := outcome_eq_error_iff_raises.mp failed
    obtain ⟨_, _, _, _, rfl, ⟨_, _, _, found, _⟩, _⟩ :=
      (raises.errorAt unknown.1).hostRaises unknown.2
    cases found

/-- A host function evaluates a tree whose own function puts values into a third one. The error
has three spans, and one of them is left where variables are not available. -/
theorem evaluateNoVars_forbids_nested :
    let fetch : Source := ⟨"inner", fun _ _ => do
      let tree ← Run.ofExcept ((Expr.var ⟨1, 2, 7⟩ "y").resolve .empty)
      return some (← evaluateNoVars tree none {})⟩
    let load : Source := ⟨"outer", fun _ _ => do
      return some (← evaluate (.call ⟨0, 7, 3⟩ "fetch" []) .empty fetch {})⟩
    let e : Expr := .un ⟨0, 10, 0⟩ .not (.call ⟨1, 10, 0⟩ "load" [.lit ⟨6, 9, 0⟩ ⟨"k", none⟩])
    let first : EvalError := (EvalError.unknownVariable "y").within ⟨1, 2, 7⟩
    let second : EvalError := first.within ⟨0, 7, 3⟩
    let error : EvalError := second.within ⟨1, 10, 0⟩
    let f : Failure := .reported error (.reported second (.error first))
    (evaluate e .empty load {}).outcome = .error f ∧ UnknownVariable f error "y" ∧
      error.spans = [⟨1, 10, 0⟩, ⟨0, 7, 3⟩, ⟨1, 2, 7⟩] ∧
      ∃ answer, answer.root = .noVariablesAllowed "y" ∧ answer.spans = [⟨1, 10, 0⟩] ∧
        (evaluateNoVars e load {}).outcome = .error (.reported answer f) := by
  intro fetch load e first second error f
  have failed : (evaluate e .empty load {}).outcome = .error f := by decide +kernel
  have unknown : UnknownVariable f error "y" := ⟨rfl, rfl⟩
  obtain ⟨_, forbidden, _⟩ := evaluateNoVars_forbids e load {}
  obtain ⟨s, answer, ⟨callee, args, inside⟩, _, rfl, spans, reported⟩ :=
    forbidden f error "y" failed unknown
  have located : s = ⟨1, 10, 0⟩ := by
    simp only [e, nodes, nodesOfAll, List.mem_cons, call.injEq, List.append_nil,
      List.not_mem_nil, or_false, reduceCtorEq, false_or] at inside
    exact inside.1
  exact ⟨failed, unknown, rfl, _, rfl, located ▸ spans, reported⟩

end TextExpr.Expr
