import TextExpr.Proofs.Coincidence
import TextExpr.Proofs.Origin
import TextExpr.Proofs.Substitution

/-!
# Variables without a value

Without a host, evaluation speaks of an unresolved variable exactly if it comes to a variable that
is not bound. If it comes to none, more bindings make no difference. Putting values into the
tree comes to every variable: it refuses a tree whose evaluation misses one, and it refuses the
same variable first if there is no conditional, whose branches evaluation may pass over.
-/
namespace TextExpr

/-- All that is bound in the smaller environment has the same value in the larger one. -/
def Env.Extends (larger smaller : Env) : Prop :=
  ∀ name v, smaller name = some v → larger name = some v

namespace Expr

variable {ctx ctx' : Context} {e : Expr} {v : Value} {error : EvalError} {s : Span} {x : Text}

/-- The end is an error whose root is a variable that is not resolved. -/
def Unresolved (ended : Except Failure Value) (error : EvalError) (x : Text) : Prop :=
  ∃ f, ended = .error f ∧ f.error? = some error ∧ error.root = .unresolvedVariable x

theorem outcome_of_unbound (visits : Visits ctx e (.var s x)) (unbound : ctx.env x = none) :
    e.outcome ctx = .error (.error ((EvalError.unresolvedVariable x).within s)) := by
  refine outcome_eq_error_iff_raises.mpr ⟨.var s x, visits, [], .nil, ?_⟩
  simp only [conclude, unbound]

/-- Without a host, only a variable that evaluation comes to is found unresolved. -/
theorem unresolved_iff (alone : ctx.source = none) : Unresolved (e.outcome ctx) error x ↔
    ∃ s, Visits ctx e (.var s x) ∧ ctx.env x = none ∧
      error = (EvalError.unresolvedVariable x).within s := by
  constructor
  · rintro ⟨f, failed, raised, root⟩
    obtain ⟨n, visits, raises⟩ := outcome_eq_error_iff_raises.mp failed
    rcases (raises.errorAt raised).of_variable (by rw [root]; rfl) with
      ⟨s, name, rfl, unbound, named, _⟩ | ⟨_, _, _, _, _, ⟨_, _, _, found, _⟩, _⟩
    · cases root.symm.trans named
      refine ⟨s, visits, unbound, ?_⟩
      cases failed.symm.trans (outcome_of_unbound visits unbound)
      exact (Option.some.inj raised).symm
    · cases alone.symm.trans found
  · rintro ⟨s, visits, unbound, rfl⟩
    exact ⟨_, outcome_of_unbound visits unbound, rfl, rfl⟩

/-- With the same host, evaluation depends on the variables that it comes to and no others. -/
theorem outcome_eq_of_bindings (sources : ctx.source = ctx'.source)
    (bindings : ∀ s x, Visits ctx e (.var s x) → ctx.env x = ctx'.env x) :
    e.outcome ctx = e.outcome ctx' := by
  refine (alike_of_agreement (F := Eq) fun n values visits evaluated _ => ?_).eq
  cases kind : n.isTerminal with
  | false =>
    have kept : List.Forall₂ Eq n.children n.children := List.forall₂_same.mpr fun _ _ => rfl
    have alike := conclude_withParts ctx' kind kept evaluated sources
    rw [withParts_children] at alike
    exact alike.imp fun _ _ _ related => related.eq
  | true =>
    cases n with
    | lit s v => exact .refl _
    | var s x =>
      simp only [conclude, bindings s x visits]
      exact .refl _
    | _ => cases kind

/-- Evaluation that misses no variable goes the same way with more bindings. -/
theorem outcome_extend (alone : ctx.source = none) (alone' : ctx'.source = none)
    (resolved : ∀ error x, ¬ Unresolved (e.outcome ctx) error x)
    (larger : ctx'.env.Extends ctx.env) : e.outcome ctx' = e.outcome ctx := by
  refine (outcome_eq_of_bindings (alone.trans alone'.symm) fun s x visits => ?_).symm
  cases found : ctx.env x with
  | some v => rw [larger x v found]
  | none => exact absurd ((unresolved_iff alone).mpr ⟨s, visits, found, rfl⟩) (resolved _ x)

def isConditional : Expr → Bool
  | .cond .. => true
  | _ => false

/-- The tree has no conditional in it. -/
def Branchless (e : Expr) : Prop := ∀ n ∈ e.nodes, n.isConditional = false

instance (e : Expr) : Decidable e.Branchless :=
  inferInstanceAs (Decidable (∀ n ∈ e.nodes, n.isConditional = false))

theorem Branchless.child (branchless : e.Branchless) {c : Expr} (part : c ∈ e.children) :
    c.Branchless :=
  fun n inside => branchless n (mem_nodes_of_child part inside)

theorem Branchless.operands (branchless : e.Branchless) : e.operands = e.children := by
  cases e with
  | cond s c t e => cases branchless _ (self_mem_nodes _)
  | _ => rfl

/-- Without conditionals, evaluation with a value has come to every variable. -/
theorem Branchless.exists_resolve (branchless : e.Branchless) (ended : e.outcome ctx = .ok v) :
    ∃ r, e.resolve ctx.env = .ok r := by
  induction e using induction_children generalizing v with
  | step e ih =>
    obtain ⟨values, _, evaluated, concluded, _⟩ := outcome_eq_ok_iff.mp ended
    cases kind : e.isTerminal with
    | true =>
      cases e with
      | lit s w => exact ⟨_, rfl⟩
      | var s x =>
        simp only [conclude] at concluded
        split at concluded
        next found => exact ⟨_, resolve_eq_ok_iff.mpr (.var found)⟩
        next => cases concluded
      | _ => cases kind
    | false =>
      refine exists_resolve_of_children kind fun c part => ?_
      obtain ⟨w, _, ended⟩ := exists_of_mem_left evaluated (branchless.operands ▸ part)
      exact ih c part (branchless.child part) ended

/-- The first variable without a value that evaluation comes to is the first that is refused. -/
theorem Branchless.resolve_eq_error (branchless : e.Branchless) (visits : Visits ctx e (.var s x))
    (unbound : ctx.env x = none) :
    e.resolve ctx.env = .error ((EvalError.unknownVariable x).within s) := by
  induction visits using Relation.ReflTransGen.head_induction_on with
  | refl => simp only [resolve, unbound]
  | @head e c enters _ ih =>
    have refused := ih (branchless.child enters.mem_children)
    cases enters with
    | operand split succeed =>
      -- What was evaluated before this part has values, so it is not refused before this part.
      rw [branchless.operands] at split
      refine resolve_eq_error_of_child split (fun b before => ?_) refused
      obtain ⟨v, ended⟩ := succeed b before
      exact (branchless.child (by simp [split, before])).exists_resolve ended
    | branch evaluated taken =>
      obtain ⟨_, _, _, _, _, _, rfl, _⟩ := conclude_branch evaluated taken
      cases branchless _ (self_mem_nodes _)

/-- An unresolved variable stands in the tree, where the error points, and is not bound. Values
cannot be put into that tree: it is refused, and without conditionals for this very variable. If
no variable is found unresolved, more bindings change nothing. -/
theorem evaluate_unresolved (e : Expr) (env : Env) (settings : Settings) :
    (∀ error x, Unresolved (evaluate e env none settings).outcome error x →
      x ∈ e.varRefs ∧ env x = none ∧ (∃ refusal, e.resolve env = .error refusal) ∧
        ∃ s, .var s x ∈ e.nodes ∧ error.spans = [s] ∧
          (e.Branchless → e.resolve env = .error ((EvalError.unknownVariable x).within s))) ∧
    ((∀ name ∈ e.varRefs, (env name).isSome) →
      ∀ error x, ¬ Unresolved (evaluate e env none settings).outcome error x) ∧
    ((∀ error x, ¬ Unresolved (evaluate e env none settings).outcome error x) →
      ∀ env' settings', env'.Extends env →
        (evaluate e env' none settings').outcome = (evaluate e env none settings).outcome) := by
  have missing : ∀ error x, Unresolved (evaluate e env none settings).outcome error x →
      x ∈ e.varRefs ∧ env x = none ∧ ∃ s, Visits ⟨env, none, settings.trace⟩ e (.var s x) ∧
        error = (EvalError.unresolvedVariable x).within s := by
    intro error x unresolved
    obtain ⟨s, visits, unbound, located⟩ := (unresolved_iff rfl).mp unresolved
    exact ⟨mem_varRefs_iff.mpr ⟨s, visits.mem_nodes⟩, unbound, s, visits, located⟩
  refine ⟨fun error x unresolved => ?_, fun bound error x unresolved => ?_, ?_⟩
  · obtain ⟨occurs, unbound, s, visits, rfl⟩ := missing error x unresolved
    refine ⟨occurs, unbound, ?_, s, visits.mem_nodes, rfl, fun branchless => ?_⟩
    · cases resolved : e.resolve env with
      | error refusal => exact ⟨refusal, rfl⟩
      | ok r => exact absurd (isSome_of_resolve resolved occurs) (by simp [unbound])
    · exact branchless.resolve_eq_error visits unbound
  · obtain ⟨occurs, unbound, _⟩ := missing error x unresolved
    exact absurd (bound x occurs) (by simp [unbound])
  · exact fun resolved env' settings' larger => outcome_extend rfl rfl resolved larger

/-- The operand on the left comes first: as long as it has no value it is missed, and once its
value is no truth value, the variable on the right is not looked at. -/
theorem evaluate_unresolved_operands :
    let e : Expr := .bin ⟨0, 6, 0⟩ .plus (.un ⟨0, 2, 0⟩ .not (.var ⟨1, 2, 0⟩ "a"))
      (.var ⟨5, 6, 0⟩ "b")
    let env : Env := .ofList [("a", ⟨"x", none⟩)]
    let env' : Env := .ofList [("b", ⟨"1", none⟩), ("a", ⟨"x", none⟩)]
    let missed : EvalError := (EvalError.unresolvedVariable "a").within ⟨1, 2, 0⟩
    let rejected : EvalError := .conversion ⟨"x", some ⟨1, 2, 0⟩⟩ "bool" none
    Unresolved (evaluate e .empty none {}).outcome missed "a" ∧
      e.resolve .empty = .error ((EvalError.unknownVariable "a").within ⟨1, 2, 0⟩) ∧
      (∀ error x, ¬ Unresolved (evaluate e env' none {}).outcome error x) ∧
      (evaluate e env none {}).outcome = .error (.error rejected) ∧
      (evaluate e env' none {}).outcome = .error (.error rejected) := by
  intro e env env' missed rejected
  have branchless : e.Branchless := by decide
  have unresolved : Unresolved (evaluate e .empty none {}).outcome missed "a" :=
    ⟨.error missed, by decide +kernel, rfl, rfl⟩
  have ended : (evaluate e env none {}).outcome = .error (.error rejected) := by decide +kernel
  have resolved : ∀ error x, ¬ Unresolved (evaluate e env none {}).outcome error x := by
    rintro error x ⟨f, failed, raised, root⟩
    cases ended.symm.trans failed
    cases raised
    cases root
  have larger : env'.Extends env := by
    intro name v found
    by_cases named : name = Text.ofString "a"
    · subst named
      exact found
    · have other : (name == Text.ofString "a") = false := beq_false_of_ne named
      simp [env, Env.ofList, List.lookup_cons, other] at found
  obtain ⟨_, _, _, s, _, spans, refused⟩ := (evaluate_unresolved e .empty {}).1 _ _ unresolved
  obtain ⟨_, bound, _⟩ := evaluate_unresolved e env' {}
  obtain ⟨_, _, extended⟩ := evaluate_unresolved e env {}
  cases spans
  refine ⟨unresolved, refused branchless, bound (by decide +kernel), ended, ?_⟩
  rw [extended resolved env' {} larger, ended]

end Expr

end TextExpr
