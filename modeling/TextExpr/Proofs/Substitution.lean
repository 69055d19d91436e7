import TextExpr.Proofs.Origin
import TextExpr.Proofs.Simulation

/-!
# Putting values in the place of variables

Evaluation of a tree whose variables have been replaced by their values, where variables are
not available, ends as evaluation of the tree itself. Only an unknown variable, which comes
from a function of the host, is reported in another way.
-/
namespace TextExpr.Expr

variable {ctx : Context} {env : Env} {e r n : Expr} {f : Failure} {error inner : EvalError}
  {name : Text}

theorem resolveAll_eq (env : Env) (es : List Expr) :
    resolveAll env es = es.mapM (resolve env) := by
  induction es with
  | nil => rfl
  | cons e rest ih => rw [resolveAll, ih, List.mapM_cons]

/-- What a node becomes when the values of variables are put into it. -/
inductive Resolved (env : Env) : Expr → Expr → Prop where
  | lit {s v} : Resolved env (.lit s v) (.lit s v)
  | var {s name v} (found : env name = some v) : Resolved env (.var s name) (.lit s v)
  | bin {s op l r l' r'} (left : l.resolve env = .ok l') (right : r.resolve env = .ok r') :
      Resolved env (.bin s op l r) (.bin s op l' r')
  | un {s op e e'} (operand : e.resolve env = .ok e') :
      Resolved env (.un s op e) (.un s op e')
  | cond {s c t e c' t' e'} (test : c.resolve env = .ok c') (yes : t.resolve env = .ok t')
      (no : e.resolve env = .ok e') : Resolved env (.cond s c t e) (.cond s c' t' e')
  | index {s c k c' k'} (container : c.resolve env = .ok c') (key : k.resolve env = .ok k') :
      Resolved env (.index s c k) (.index s c' k')
  | call {s name args args'}
      (arguments : List.Forall₂ (fun a a' => a.resolve env = .ok a') args args') :
      Resolved env (.call s name args) (.call s name args')

theorem resolve_eq_ok_iff : e.resolve env = .ok r ↔ Resolved env e r := by
  constructor
  · intro resolved
    cases e with
    | lit s v =>
      cases resolved
      exact .lit
    | var s name =>
      simp only [resolve] at resolved
      split at resolved
      next found =>
        cases resolved
        exact .var found
      next => cases resolved
    | bin s op l r =>
      obtain ⟨l', left, resolved⟩ := bind_eq_ok_iff.mp resolved
      obtain ⟨r', right, resolved⟩ := bind_eq_ok_iff.mp resolved
      cases resolved
      exact .bin left right
    | un s op e =>
      obtain ⟨e', operand, resolved⟩ := bind_eq_ok_iff.mp resolved
      cases resolved
      exact .un operand
    | cond s c t e =>
      obtain ⟨c', test, resolved⟩ := bind_eq_ok_iff.mp resolved
      obtain ⟨t', yes, resolved⟩ := bind_eq_ok_iff.mp resolved
      obtain ⟨e', no, resolved⟩ := bind_eq_ok_iff.mp resolved
      cases resolved
      exact .cond test yes no
    | index s c k =>
      obtain ⟨c', container, resolved⟩ := bind_eq_ok_iff.mp resolved
      obtain ⟨k', key, resolved⟩ := bind_eq_ok_iff.mp resolved
      cases resolved
      exact .index container key
    | call s name args =>
      obtain ⟨args', arguments, resolved⟩ := bind_eq_ok_iff.mp resolved
      cases resolved
      rw [resolveAll_eq] at arguments
      exact .call (mapM_eq_ok_iff.mp arguments)
  · intro resolved
    cases resolved with
    | lit => rfl
    | var found => simp only [resolve, found]
    | bin left right => exact bind_eq_ok_iff.mpr ⟨_, left, bind_eq_ok_iff.mpr ⟨_, right, rfl⟩⟩
    | un operand => exact bind_eq_ok_iff.mpr ⟨_, operand, rfl⟩
    | cond test yes no =>
      refine bind_eq_ok_iff.mpr ⟨_, test, bind_eq_ok_iff.mpr ⟨_, yes, ?_⟩⟩
      exact bind_eq_ok_iff.mpr ⟨_, no, rfl⟩
    | index container key =>
      exact bind_eq_ok_iff.mpr ⟨_, container, bind_eq_ok_iff.mpr ⟨_, key, rfl⟩⟩
    | call arguments =>
      rw [resolve, resolveAll_eq]
      exact bind_eq_ok_iff.mpr ⟨_, mapM_eq_ok_iff.mpr arguments, rfl⟩

/-- The node with other parts in the places of its own. -/
def withParts : Expr → List Expr → Expr
  | .lit s v, _ => .lit s v
  | .var s name, _ => .var s name
  | .bin s op l r, parts => .bin s op (parts.getD 0 l) (parts.getD 1 r)
  | .un s op e, parts => .un s op (parts.getD 0 e)
  | .cond s c t e, parts => .cond s (parts.getD 0 c) (parts.getD 1 t) (parts.getD 2 e)
  | .index s c k, parts => .index s (parts.getD 0 c) (parts.getD 1 k)
  | .call s name _, parts => .call s name parts

theorem withParts_children (e : Expr) : e.withParts e.children = e := by
  cases e <;> rfl

/-- A node with parts is put together again from what its parts become, from left to right. -/
theorem resolve_eq_withParts (env : Env) (compound : e.isTerminal = false) :
    e.resolve env = (e.children.mapM (resolve env)).map e.withParts := by
  cases e with
  | lit | var => cases compound
  | bin | un | cond | index =>
    simp only [children, List.mapM_cons, List.mapM_nil, map_eq_bind, bind_assoc, pure_bind]
    rfl
  | call s name args =>
    rw [resolve, resolveAll_eq, map_eq_bind]
    rfl

theorem exists_resolve_of_children (compound : e.isTerminal = false)
    (parts : ∀ c ∈ e.children, ∃ c', c.resolve env = .ok c') : ∃ r, e.resolve env = .ok r := by
  obtain ⟨parts', resolved⟩ := exists_mapM parts
  exact ⟨e.withParts parts', by rw [resolve_eq_withParts env compound, resolved]; rfl⟩

/-- A node is refused with its first part that is refused. -/
theorem resolve_eq_error_of_child {before after : List Expr} {c : Expr} {refusal : EvalError}
    (split : e.children = before ++ c :: after)
    (earlier : ∀ b ∈ before, ∃ b', b.resolve env = .ok b')
    (refused : c.resolve env = .error refusal) : e.resolve env = .error refusal := by
  have part : c ∈ e.children := by simp [split]
  rw [resolve_eq_withParts env (isTerminal_of_child part)]
  exact map_eq_error_iff.mpr (mapM_eq_error_iff.mpr ⟨before, c, after, split, earlier, refused⟩)

theorem exists_resolve_child {c : Expr} (resolved : e.resolve env = .ok r)
    (part : c ∈ e.children) : ∃ c', c.resolve env = .ok c' := by
  rw [resolve_eq_withParts env (isTerminal_of_child part)] at resolved
  obtain ⟨parts, traversed, _⟩ := map_eq_ok_iff.mp resolved
  obtain ⟨c', _, became⟩ := exists_of_mem_left (mapM_eq_ok_iff.mp traversed) part
  exact ⟨c', became⟩

/-- Values can be put into a tree if all its variables have one. -/
theorem exists_resolve (bound : ∀ name ∈ e.varRefs, (env name).isSome) :
    ∃ r, e.resolve env = .ok r := by
  induction e using induction_children with
  | step e ih =>
    cases kind : e.isTerminal with
    | false =>
      exact exists_resolve_of_children kind fun c part =>
        ih c part fun name occurs => bound name (mem_varRefs_of_child part occurs)
    | true =>
      cases e with
      | lit s v => exact ⟨_, rfl⟩
      | var s name =>
        obtain ⟨v, found⟩ := Option.isSome_iff_exists.mp (bound name (by simp [varRefs]))
        exact ⟨_, resolve_eq_ok_iff.mpr (.var found)⟩
      | _ => cases kind

/-- A tree that values can be put into has no variable without one. -/
theorem isSome_of_resolve (resolved : e.resolve env = .ok r) (occurs : name ∈ e.varRefs) :
    (env name).isSome := by
  obtain ⟨s, inside⟩ := mem_varRefs_iff.mp occurs
  induction e using induction_children generalizing r with
  | step e ih =>
    rw [nodes_eq, List.mem_cons, List.mem_flatMap] at inside
    rcases inside with rfl | ⟨c, part, inside⟩
    · cases resolve_eq_ok_iff.mp resolved with
      | var found => simp [found]
    · obtain ⟨c', became⟩ := exists_resolve_child resolved part
      exact ih c part became (mem_varRefs_iff.mpr ⟨s, inside⟩) inside

theorem Resolved.span (resolved : Resolved env e r) : r.span = e.span := by
  cases resolved <;> rfl

theorem Resolved.operands (resolved : Resolved env e r) :
    List.Forall₂ (fun c c' => c.resolve env = .ok c') e.operands r.operands := by
  cases resolved with
  | lit | var => exact .nil
  | bin left right => exact .cons left (.cons right .nil)
  | un operand => exact .cons operand .nil
  | cond test yes no => exact .cons test .nil
  | index container key => exact .cons container (.cons key .nil)
  | call arguments => exact arguments

/-- A value for a value, whatever the branches have to do with each other. -/
theorem alike_of_moved {R : Expr → Expr → Prop} (x : Except Failure Value) (s : Span) :
    EndAlike (Conclusion.Related Eq R) Eq (x.map fun v => .value (v.withSpan s))
      (x.map fun v => .value (v.withSpan s)) :=
  (EndAlike.refl x).map fun _ _ same => .value (by rw [same])

/-- A node with other parts concludes the same of the same values. If it goes on with a branch, the
other node goes on with what stands in the place of that branch. -/
theorem conclude_withParts {S : Expr → Expr → Prop} {parts : List Expr} {values : List Value}
    (ctx' : Context) (compound : e.isTerminal = false)
    (related : List.Forall₂ S e.children parts) (evaluated : e.OperandValues ctx values)
    (sources : ctx.source = ctx'.source) :
    EndAlike (Conclusion.Related Eq S) Eq (e.conclude ctx values)
      ((e.withParts parts).conclude ctx' values) := by
  cases e with
  | lit | var => cases compound
  | bin s op l r =>
    obtain ⟨a, b, rfl, _, _⟩ := evaluated.of_bin
    exact alike_of_moved _ _
  | un s op e =>
    obtain ⟨a, rfl, _⟩ := evaluated.of_un
    exact alike_of_moved _ _
  | cond s test yes no =>
    obtain ⟨a, rfl, _⟩ := evaluated.of_cond
    obtain ⟨test', _, _, tail, rfl⟩ := List.forall₂_cons_left_iff.mp related
    obtain ⟨yes', _, onYes, tail', rfl⟩ := List.forall₂_cons_left_iff.mp tail
    obtain ⟨no', _, onNo, _, rfl⟩ := List.forall₂_cons_left_iff.mp tail'
    refine (EndAlike.refl (a.asBool.mapError .error)).map ?_
    rintro taken _ rfl
    apply Conclusion.Related.branch
    cases taken
    · exact onNo
    · exact onYes
  | index s c k =>
    obtain ⟨a, b, rfl, _, _⟩ := evaluated.of_index
    exact alike_of_moved _ _
  | call s name args =>
    simp only [conclude, withParts, sources]
    exact alike_of_moved _ _

/-- A node and what it becomes conclude alike: the literal in the place of a variable has the
variable's value, and no other node looks at the environment. -/
theorem Resolved.conclude {source : Option Source} {trace trace' : Bool} {values : List Value}
    (resolved : Resolved env e r) (evaluated : e.OperandValues ⟨env, source, trace⟩ values) :
    EndAlike (Conclusion.Related Eq fun b b' => b.resolve env = .ok b') Eq
      (e.conclude ⟨env, source, trace⟩ values) (r.conclude ⟨.empty, source, trace'⟩ values) := by
  cases kind : e.isTerminal with
  | false =>
    have became := resolve_eq_ok_iff.mpr resolved
    rw [resolve_eq_withParts env kind] at became
    obtain ⟨parts, traversed, rfl⟩ := map_eq_ok_iff.mp became
    exact conclude_withParts _ kind (mapM_eq_ok_iff.mp traversed) evaluated rfl
  | true =>
    cases resolved with
    | lit => exact .ok (.value rfl)
    | var found =>
      simp only [Expr.conclude, found]
      exact .ok (.value rfl)
    | _ => cases kind

theorem resolve_sideBySide (env : Env) (source : Option Source) (trace trace' : Bool) :
    SideBySide ⟨env, source, trace⟩ ⟨.empty, source, trace'⟩
      (fun e r => e.resolve env = .ok r) Eq Eq where
  operands := fun resolved => (resolve_eq_ok_iff.mp resolved).operands
  conclude := fun resolved evaluated _ same => by
    rw [List.forall₂_eq_eq_eq] at same
    subst same
    exact (resolve_eq_ok_iff.mp resolved).conclude evaluated
  moved := fun resolved same => by
    rw [same, (resolve_eq_ok_iff.mp resolved).span]

/-- A tree whose variables are replaced by their values ends as the tree itself. -/
theorem evaluate_resolve {source : Option Source} {settings settings' : Settings}
    (resolved : e.resolve env = .ok r) :
    (evaluate r .empty source settings').outcome = (evaluate e env source settings).outcome :=
  ((resolve_sideBySide env source settings.trace settings'.trace).outcome resolved).eq.symm

/-- Only a call of a function of the host raises an unknown variable. -/
theorem ErrorAt.hostRaises (raised : ErrorAt ctx error n)
    (root : error.root = .unknownVariable name) :
    ∃ s callee args inner, n = .call s callee args ∧ HostRaises ctx callee args inner ∧
      error = inner.within s := by
  rcases raised.of_variable (by rw [root]; rfl) with ⟨_, _, _, _, other, _⟩ | raised
  · cases root.symm.trans other
  · exact raised

/-- The failure is an error whose root is an unknown variable. -/
def UnknownVariable (f : Failure) (error : EvalError) (name : Text) : Prop :=
  f.error? = some error ∧ error.root = .unknownVariable name

theorem forbidVariables_of_unknown {s : Span} (unknown : UnknownVariable f error name)
    (located : error.span? = some s) :
    forbidVariables f = .reported ((EvalError.noVariablesAllowed name).within s) f := by
  obtain ⟨raised, root⟩ := unknown
  simp only [forbidVariables, raised, root, located]

theorem forbidVariables_of_other (other : ∀ error name, ¬ UnknownVariable f error name) :
    forbidVariables f = f := by
  unfold forbidVariables
  split
  · rfl
  next error raised =>
    split
    next name root => exact absurd ⟨raised, root⟩ (other error name)
    next => rfl

/-- With a value for each of its variables a tree ends as it does after the values are put in,
where variables are not available. An unknown variable, which a function of the host speaks of,
is reported once more, at the span of the call. -/
theorem evaluateNoVars_resolve (e : Expr) (env : Env) (source : Option Source)
    (settings settings' : Settings) (bound : ∀ name ∈ e.varRefs, (env name).isSome) :
    ∃ r, e.resolve env = .ok r ∧
      ((∀ f error name, (evaluate e env source settings).outcome = .error f →
          ¬ UnknownVariable f error name) →
        (evaluateNoVars r source settings').outcome =
          (evaluate e env source settings).outcome) ∧
      ∀ f error name, (evaluate e env source settings).outcome = .error f →
        UnknownVariable f error name →
        ∃ s callee args inner, .call s callee args ∈ e.nodes ∧
          HostRaises ⟨env, source, settings.trace⟩ callee args inner ∧
          error = inner.within s ∧ error.span? = some s ∧
          (evaluateNoVars r source settings').outcome =
            .error (.reported ((EvalError.noVariablesAllowed name).within s) f) := by
  obtain ⟨r, resolved⟩ := exists_resolve bound
  -- The two runs differ only in how the failure is reported at the end.
  have same : (evaluateNoVars r source settings').outcome =
      (evaluate e env source settings).outcome.mapError forbidVariables := by
    rw [evaluateNoVars, Run.outcome_mapFailure, evaluate_resolve resolved]
  refine ⟨r, resolved, ?_, ?_⟩
  · intro other
    rw [same]
    cases ended : (evaluate e env source settings).outcome with
    | ok v => rfl
    | error f =>
      have unchanged := forbidVariables_of_other fun error name => other f error name ended
      exact congrArg Except.error unchanged
  · intro f error name failed unknown
    obtain ⟨n, visits, raises⟩ := outcome_eq_error_iff_raises.mp failed
    obtain ⟨s, callee, args, inner, rfl, hostRaises, rfl⟩ :=
      (raises.errorAt unknown.1).hostRaises unknown.2
    refine ⟨s, callee, args, inner, visits.mem_nodes, hostRaises, rfl, rfl, ?_⟩
    rw [same, failed]
    exact congrArg Except.error (forbidVariables_of_unknown unknown rfl)

/-- A variable next to a call of the host that speaks of a variable it does not know. -/
theorem evaluateNoVars_resolve_lookup :
    let source : Source := ⟨"lookup", fun _ _ => Run.fail (.error (.unknownVariable "y"))⟩
    let env : Env := .ofList [("x", ⟨"1", none⟩)]
    let e : Expr := .bin ⟨0, 14, 0⟩ .plus (.var ⟨0, 1, 0⟩ "x")
      (.call ⟨4, 14, 0⟩ "lookup" [.var ⟨11, 12, 0⟩ "x"])
    let error : EvalError := .unknownVariable "y"
    let f : Failure := .reported (error.within ⟨4, 14, 0⟩) (.error error)
    (evaluate e env source {}).outcome = .error f ∧
      ∃ r s, e.resolve env = .ok r ∧
        (evaluateNoVars r source {}).outcome =
          .error (.reported ((EvalError.noVariablesAllowed "y").within s) f) := by
  intro source env e error f
  have bound : ∀ name ∈ e.varRefs, (env name).isSome := by decide +kernel
  have failed : (evaluate e env source {}).outcome = .error f := by decide +kernel
  obtain ⟨r, resolved, _, reported⟩ := evaluateNoVars_resolve e env source {} {} bound
  obtain ⟨s, _, _, _, _, _, _, _, substituted⟩ := reported f _ "y" failed ⟨rfl, rfl⟩
  exact ⟨failed, r, s, resolved, substituted⟩

end TextExpr.Expr
