import TextExpr.Proofs.Canonical
import TextExpr.Proofs.Trace
import TextExpr.Proofs.Variables

/-!
# Equal trees

Equality of trees counts the spans of nodes and passes over the span inside the value of a literal.
Trees are equal exactly if they are the same once those spans are left out. No function over trees
lets such a span through: the value of a literal is shown by its text, and evaluation moves it to
the span of its node before anything else is done with it.
-/
namespace TextExpr

/-- What is put down of an entry. -/
def Entry.record (entry : Entry) : Level × Channel × Text :=
  (entry.level, entry.channel, entry.message)

namespace Run

variable {α β : Type}

/-- Runs that end in the same, and of which the same is put down. -/
structure LooksLike (r r' : Run α) : Prop where
  outcome : r.outcome = r'.outcome
  records : r.log.map Entry.record = r'.log.map Entry.record

namespace LooksLike

variable {r r' r'' : Run α}

theorem refl (r : Run α) : r.LooksLike r := ⟨rfl, rfl⟩

theorem symm (alike : r.LooksLike r') : r'.LooksLike r :=
  ⟨alike.outcome.symm, alike.records.symm⟩

theorem trans (first : r.LooksLike r') (second : r'.LooksLike r'') : r.LooksLike r'' :=
  ⟨first.outcome.trans second.outcome, first.records.trans second.records⟩

theorem bind {f g : α → Run β} (first : r.LooksLike r') (next : ∀ a, (f a).LooksLike (g a)) :
    (r >>= f).LooksLike (r' >>= g) where
  outcome := by
    rw [outcome_bind, outcome_bind, first.outcome]
    exact congrArg _ (funext fun a => (next a).outcome)
  records := by
    rw [log_bind, log_bind, List.map_append, List.map_append, first.records, first.outcome]
    cases r'.outcome with
    | ok a => exact congrArg _ (next a).records
    | error f => rfl

end LooksLike

end Run

namespace Expr

variable {a b e : Expr} {ctx : Context}

mutual

/-- The tree with no spans in the values of literals. -/
def bare : Expr → Expr
  | .lit s v => .lit s (.ofText v.text)
  | .var s name => .var s name
  | .bin s op l r => .bin s op (bare l) (bare r)
  | .un s op e => .un s op (bare e)
  | .cond s c t e => .cond s (bare c) (bare t) (bare e)
  | .index s c k => .index s (bare c) (bare k)
  | .call s name args => .call s name (bareAll args)

def bareAll : List Expr → List Expr
  | [] => []
  | e :: rest => bare e :: bareAll rest

end

theorem bareAll_eq (es : List Expr) : bareAll es = es.map bare := by
  induction es with
  | nil => rfl
  | cons e rest ih => rw [bareAll, ih, List.map_cons]

theorem bare_compound (compound : e.isTerminal = false) :
    e.bare = e.withParts (e.children.map bare) := by
  cases e with
  | lit | var => cases compound
  | bin | un | cond | index => rfl
  | call s name args => rw [bare, bareAll_eq, withParts, children]

theorem isTerminal_bare (compound : e.isTerminal = false) : e.bare.isTerminal = false := by
  rw [bare_compound compound, isTerminal_withParts, compound]

theorem children_bare (compound : e.isTerminal = false) :
    e.bare.children = e.children.map bare := by
  rw [bare_compound compound, children_withParts_map]

section Equality

theorem sameArgs_iff {es es' : List Expr}
    (each : ∀ e ∈ es, ∀ e', e.same e' = true ↔ e.bare = e'.bare) :
    sameArgs es es' = true ↔ es.map bare = es'.map bare := by
  induction es generalizing es' with
  | nil => cases es' <;> simp [sameArgs]
  | cons e rest ih =>
    obtain ⟨first, later⟩ := List.forall_mem_cons.mp each
    cases es' with
    | nil => simp [sameArgs]
    | cons e' rest' => simp [sameArgs, first, ih later]

/-- Equal trees are those that the spans in the values of literals alone may tell apart. -/
theorem same_iff : a.same b = true ↔ a.bare = b.bare := by
  induction a using induction_children generalizing b with
  | step a ih =>
    have part : ∀ c ∈ a.children, ∀ c', c.same c' = true ↔ c.bare = c'.bare := fun c part _ =>
      ih c part
    cases a with
    | lit s v => cases b <;> simp [same, bare, Value.same, Value.ofText]
    | var s name => cases b <;> simp [same, bare]
    | call s name args =>
      have arguments : ∀ args', sameArgs args args' = true ↔ args.map bare = args'.map bare :=
        fun _ => sameArgs_iff part
      cases b <;> simp [same, bare, bareAll_eq, arguments, and_assoc]
    | bin | un | cond | index =>
      simp only [children, List.forall_mem_cons] at part
      cases b <;> simp [same, bare, part, and_assoc, and_left_comm]

theorem same_equivalence : Equivalence fun a b : Expr => a.same b = true where
  refl _ := same_iff.mpr rfl
  symm equal := same_iff.mpr (same_iff.mp equal).symm
  trans first second := same_iff.mpr ((same_iff.mp first).trans (same_iff.mp second))

end Equality

section Rendering

theorem span_bare (e : Expr) : e.bare.span = e.span := by
  cases e <;> rfl

theorem render_bare (e : Expr) : e.bare.render = e.render := by
  induction e using induction_children with
  | step e ih =>
    cases e with
    | lit | var => rfl
    | call s name args =>
      have parts : renderArgs (args.map bare) = renderArgs args := renderArgs_map ih
      rw [bare, bareAll_eq, render, render, parts]
    | bin | un | cond | index =>
      simp only [children, List.forall_mem_cons] at ih
      simp only [bare, render, ih]

theorem occurrences_bare (e : Expr) : e.bare.occurrences = e.occurrences := by
  induction e using induction_terminals with
  | lit | var => rfl
  | compound e kind ih =>
    rw [occurrences_compound (isTerminal_bare kind), occurrences_compound kind, children_bare kind,
      List.flatMap_map]
    exact List.flatMap_congr ih

theorem varRefs_bare (e : Expr) : e.bare.varRefs = e.varRefs := by
  rw [varRefs_eq, occurrences_bare, varRefs_eq]

end Rendering

section Resolving

theorem firstUnbound?_bare (env : Env) (e : Expr) :
    e.bare.firstUnbound? env = e.firstUnbound? env := by
  rw [firstUnbound?, occurrences_bare]
  rfl

/-- What is put into a bare tree may be left as it is or made bare first. -/
theorem bare_replaceVars (f : Span → Text → Expr) (e : Expr) :
    (e.bare.replaceVars f).bare = (e.replaceVars f).bare := by
  induction e using induction_children with
  | step e ih =>
    cases e with
    | lit | var => rfl
    | call s name args =>
      have parts : args.map (fun e => (e.bare.replaceVars f).bare) =
          args.map fun e => (e.replaceVars f).bare := List.map_congr_left ih
      simpa [bare, bareAll_eq, replaceVars, replaceVarsInAll_eq, Function.comp_def] using parts
    | bin | un | cond | index =>
      simp only [children, List.forall_mem_cons] at ih
      simp only [bare, replaceVars, ih]

/-- Equal trees resolve to equal trees, or are refused with one error. -/
theorem resolve_same (equal : a.same b = true) (env : Env) :
    (∃ r r', a.resolve env = .ok r ∧ b.resolve env = .ok r' ∧ r.same r' = true) ∨
    ∃ refusal, a.resolve env = .error refusal ∧ b.resolve env = .error refusal := by
  have bare := same_iff.mp equal
  have first : a.firstUnbound? env = b.firstUnbound? env := by
    rw [← firstUnbound?_bare, bare, firstUnbound?_bare]
  rw [resolve_eq, resolve_eq, first]
  cases b.firstUnbound? env with
  | some o => exact Or.inr ⟨refuse o, rfl, rfl⟩
  | none =>
    refine Or.inl ⟨_, _, rfl, rfl, same_iff.mpr ?_⟩
    rw [withValues, ← bare_replaceVars, bare, bare_replaceVars, withValues]

end Resolving

section Evaluating

open Run (LooksLike)

/-- A value is taken for its text, once it is moved to the span of a node. -/
theorem finish_looksLike (ctx : Context) {n n' : Expr} {v v' : Value}
    (rendered : n.render = n'.render) (spans : n.span = n'.span) (text : v.text = v'.text) :
    (finish ctx n v).LooksLike (finish ctx n' v') := by
  have moved : v.withSpan n.span = v'.withSpan n'.span := by
    rw [Value.withSpan, Value.withSpan, text, spans]
  constructor
  · rw [outcome_finish, outcome_finish, moved]
  · cases traced : ctx.trace with
    | false => simp [finish, traced]
    | true => simp [log_finish traced, Entry.record, Entry.level, Entry.channel, Entry.message, *]

theorem evalAll_bare {es : List Expr} (each : ∀ e ∈ es, (e.eval ctx).LooksLike (e.bare.eval ctx)) :
    (evalAll ctx es).LooksLike (evalAll ctx (es.map bare)) := by
  induction es with
  | nil => exact .refl _
  | cons e rest ih =>
    obtain ⟨first, later⟩ := List.forall_mem_cons.mp each
    exact first.bind fun v => (ih later).bind fun vs => .refl _

theorem eval_bare (ctx : Context) (e : Expr) : (e.eval ctx).LooksLike (e.bare.eval ctx) := by
  induction e using induction_children with
  | step e ih =>
    have finished (v : Value) : (finish ctx e v).LooksLike (finish ctx e.bare v) :=
      finish_looksLike ctx (render_bare e).symm (span_bare e).symm rfl
    cases e with
    -- the one node where the values differ, in the span that is given up here
    | lit s v => exact finish_looksLike ctx rfl rfl rfl
    | var s name => exact .refl _
    | bin s op l r =>
      have left := ih l (by simp [children])
      have right := ih r (by simp [children])
      exact left.bind fun _ => right.bind fun _ => (LooksLike.refl _).bind finished
    | un s op e =>
      have operand := ih e (by simp [children])
      exact operand.bind fun _ => (LooksLike.refl _).bind finished
    | cond s c t e =>
      have test := ih c (by simp [children])
      have yes := ih t (by simp [children])
      have no := ih e (by simp [children])
      refine test.bind fun _ => (LooksLike.refl _).bind fun b => ?_
      cases b with
      | true => exact yes.bind finished
      | false => exact no.bind finished
    | index s c k =>
      have container := ih c (by simp [children])
      have key := ih k (by simp [children])
      exact container.bind fun _ => key.bind fun _ => (LooksLike.refl _).bind finished
    | call s name args =>
      have arguments : (evalAll ctx args).LooksLike (evalAll ctx (args.map bare)) := evalAll_bare ih
      rw [bare, bareAll_eq, eval, eval]
      rw [bare, bareAll_eq] at finished
      exact arguments.bind fun _ => (LooksLike.refl _).bind finished

end Evaluating

/-- Equality of trees is an equivalence, and nothing tells equal trees apart: they have the same
text and the same variables, they resolve to equal trees or with the same error, and evaluation
ends in the same, whatever the variables, the host and the settings are, and puts down the same
lines. -/
theorem same_indistinguishable :
    (Equivalence fun a b : Expr => a.same b = true) ∧
    ∀ a b : Expr, a.same b = true → ∀ (env : Env) (source : Option Source) (settings : Settings),
      a.render = b.render ∧ a.varRefs = b.varRefs ∧
      ((∃ r r', a.resolve env = .ok r ∧ b.resolve env = .ok r' ∧ r.same r' = true) ∨
        ∃ refusal, a.resolve env = .error refusal ∧ b.resolve env = .error refusal) ∧
      (evaluate a env source settings).outcome = (evaluate b env source settings).outcome ∧
      (evaluate a env source settings).log.map Entry.record =
        (evaluate b env source settings).log.map Entry.record := by
  refine ⟨same_equivalence, ?_⟩
  intro a b equal env source settings
  have bare := same_iff.mp equal
  refine ⟨?_, ?_, resolve_same equal env, ?_⟩
  · rw [← render_bare, bare, render_bare]
  · rw [← varRefs_bare, bare, varRefs_bare]
  · have evaluated := eval_bare ⟨env, source, settings.trace⟩ a
    rw [bare] at evaluated
    obtain ⟨outcome, records⟩ := evaluated.trans (eval_bare _ b).symm
    exact ⟨outcome, records⟩

/-- A host refuses a sum whose literal has a span of its own in one of two equal trees. The error
shows the span of the sum. -/
theorem same_indistinguishable_refused :
    let argument : Option Span → Expr := fun inner => .bin ⟨5, 12, 0⟩ .plus
      (.lit ⟨5, 8, 0⟩ ⟨"1", inner⟩) (.var ⟨11, 12, 0⟩ "x")
    let a : Expr := .call ⟨0, 13, 0⟩ "date" [argument none]
    let b : Expr := .call ⟨0, 13, 0⟩ "date" [argument (some ⟨40, 43, 1⟩)]
    let env : Env := .ofList [("x", ⟨"2", none⟩)]
    let source : Source := ⟨"dates", fun _ args =>
      Run.fail (.error (.conversion (args.getD 0 ⟨[], none⟩) "date" none))⟩
    a.same b = true ∧ a.render = b.render ∧
      (evaluate a env source ⟨true⟩).outcome = (evaluate b env source ⟨true⟩).outcome ∧
      (∃ f, (evaluate b env source ⟨true⟩).outcome = .error f ∧
        f.error?.map EvalError.spans = some [⟨0, 13, 0⟩, ⟨5, 12, 0⟩]) ∧
      (evaluate a env source ⟨true⟩).log.map Entry.record =
        (evaluate b env source ⟨true⟩).log.map Entry.record ∧
      (evaluate a env source ⟨true⟩).log.length = 3 := by
  intro argument a b env source
  have equal : a.same b = true := by decide +kernel
  obtain ⟨rendered, _, _, outcome, records⟩ :=
    same_indistinguishable.2 a b equal env source ⟨true⟩
  exact ⟨equal, rendered, outcome, ⟨_, rfl, by decide +kernel⟩, records, by decide +kernel⟩

end Expr

end TextExpr
