import TextExpr.Proofs.Respect

/-!
# Trees of one shape

Two nodes match if they are of one kind, with the same operator, name or text of a literal; their
parts and spans may be related in any way. Matching nodes whose parts end alike end alike, and so
do trees that match all the way down. So a relation of spans passes from the trees to what their
evaluations end in.
-/
namespace TextExpr.Expr

variable {S : Span → Span → Prop} {R : Expr → Expr → Prop} {e e' : Expr}
  {ctx ctx' : Context} {values values' : List Value}

/-- Nodes of one kind whose parts are related. -/
inductive Matching (S : Span → Span → Prop) (R : Expr → Expr → Prop) : Expr → Expr → Prop where
  | lit {s s' v v'} (span : S s s') (text : v.text = v'.text) :
      Matching S R (.lit s v) (.lit s' v')
  | var {s s' name} (span : S s s') : Matching S R (.var s name) (.var s' name)
  | bin {s s' op l l' r r'} (span : S s s') (left : R l l') (right : R r r') :
      Matching S R (.bin s op l r) (.bin s' op l' r')
  | un {s s' op e e'} (span : S s s') (operand : R e e') :
      Matching S R (.un s op e) (.un s' op e')
  | cond {s s' c c' t t' e e'} (span : S s s') (test : R c c') (yes : R t t') (no : R e e') :
      Matching S R (.cond s c t e) (.cond s' c' t' e')
  | index {s s' c c' k k'} (span : S s s') (container : R c c') (key : R k k') :
      Matching S R (.index s c k) (.index s' c' k')
  | call {s s' name args args'} (span : S s s') (arguments : List.Forall₂ R args args') :
      Matching S R (.call s name args) (.call s' name args')

theorem Matching.span (matching : Matching S R e e') : S e.span e'.span := by
  cases matching with
  | lit span | var span | bin span | un span | cond span | index span | call span => exact span

theorem Matching.operands (matching : Matching S R e e') :
    List.Forall₂ R e.operands e'.operands := by
  cases matching with
  | lit | var => exact .nil
  | bin _ left right => exact .cons left (.cons right .nil)
  | un _ operand => exact .cons operand .nil
  | cond _ test => exact .cons test .nil
  | index _ container key => exact .cons container (.cons key .nil)
  | call _ arguments => exact arguments

theorem Matching.refl (e : Expr) : Matching Eq Eq e e := by
  cases e with
  | lit => exact .lit rfl rfl
  | var => exact .var rfl
  | bin => exact .bin rfl rfl rfl
  | un => exact .un rfl rfl
  | cond => exact .cond rfl rfl rfl rfl
  | index => exact .index rfl rfl rfl
  | call s name args => exact .call rfl (List.forall₂_same.mpr fun _ _ => rfl)

/-- The two contexts tell a node the same: the text of the variable that it is, and the answer to
the call that it is, unless the function is built in. -/
structure TellAlike (S : Span → Span → Prop) (ctx ctx' : Context) (e : Expr)
    (values values' : List Value) : Prop where
  var : ∀ s name, e = .var s name →
    (ctx.env name).map Value.text = (ctx'.env name).map Value.text
  call : ∀ s name args, e = .call s name args → name ∉ Builtin.names →
    AnswerInText S (hostAnswer ctx.source name values) (hostAnswer ctx'.source name values')

/-- A text at the span of its node. -/
theorem conclusion_of_text {s s' : Span} {x y : Except Failure Value} (ended : EndInText S x y)
    (span : S s s') :
    EndAlike (Conclusion.Related (Value.Alike S) R) (Failure.Alike S)
      (x.map fun v => .value (v.withSpan s)) (y.map fun v => .value (v.withSpan s')) :=
  ended.map fun _ _ text => .value (Value.alike_withSpan text span)

/-- Matching nodes conclude alike from values that are alike, whatever their branches are. -/
theorem Matching.conclude (matching : Matching S R e e') (reflexive : ∀ s, S s s)
    (told : TellAlike S ctx ctx' e values values') (evaluated : e.OperandValues ctx values)
    (evaluated' : e'.OperandValues ctx' values')
    (same : List.Forall₂ (Value.Alike S) values values') :
    EndAlike (Conclusion.Related (Value.Alike S) R) (Failure.Alike S)
      (e.conclude ctx values) (e'.conclude ctx' values') := by
  cases matching with
  | lit span text => exact .ok (.value (Value.alike_withSpan text span))
  | @var s s' name span =>
    have bound := told.var s name rfl
    simp only [Expr.conclude]
    cases found : ctx.env name <;> cases found' : ctx'.env name <;> rw [found, found'] at bound
    · have unlocated : (EvalError.unresolvedVariable name).Alike S (.unresolvedVariable name) :=
        .refl reflexive _
      exact .error (.error rfl rfl (unlocated.within span))
    · cases bound
    · cases bound
    · exact .ok (.value (Value.alike_withSpan (Option.some.inj bound) span))
  | bin span left right =>
    obtain ⟨a, b, rfl, _, _⟩ := evaluated.of_bin
    obtain ⟨a', b', rfl, _, _⟩ := evaluated'.of_bin
    obtain ⟨first, second, _⟩ := List.forall₂_cons.mp same |>.imp_right List.forall₂_cons.mp
    exact conclusion_of_text (applyBinary_alike reflexive first second) span
  | un span operand =>
    obtain ⟨a, rfl, _⟩ := evaluated.of_un
    obtain ⟨a', rfl, _⟩ := evaluated'.of_un
    obtain ⟨first, _⟩ := List.forall₂_cons.mp same
    exact conclusion_of_text (applyUnary_alike first) span
  | cond span test yes no =>
    obtain ⟨a, rfl, _⟩ := evaluated.of_cond
    obtain ⟨a', rfl, _⟩ := evaluated'.of_cond
    obtain ⟨first, _⟩ := List.forall₂_cons.mp same
    refine (readsText_asBool.alike first).map fun b b' same => .branch ?_
    subst same
    cases b with
    | true => exact yes
    | false => exact no
  | index span container key =>
    obtain ⟨a, b, rfl, _, _⟩ := evaluated.of_index
    obtain ⟨a', b', rfl, _, _⟩ := evaluated'.of_index
    obtain ⟨first, second, _⟩ := List.forall₂_cons.mp same |>.imp_right List.forall₂_cons.mp
    exact conclusion_of_text (indexValue_alike span first second) span
  | call span arguments =>
    have called := callFunction_alike reflexive same (told.call _ _ _ rfl)
    exact conclusion_of_text (called.mapError fun _ _ alike => alike.locate span) span

/-- Two contexts that differ in spans alone: the variables have the same texts, and the hosts
give answers that are alike to arguments that are alike. -/
structure Context.Alike (S : Span → Span → Prop) (ctx ctx' : Context) : Prop where
  reflexive : ∀ s, S s s
  env : ∀ name, (ctx.env name).map Value.text = (ctx'.env name).map Value.text
  answers : ∀ name {args args'}, List.Forall₂ (Value.Alike S) args args' →
    AnswerInText S (hostAnswer ctx.source name args) (hostAnswer ctx'.source name args')

theorem Context.Alike.tell (contexts : Context.Alike S ctx ctx') (e : Expr)
    (same : List.Forall₂ (Value.Alike S) values values') :
    TellAlike S ctx ctx' e values values' where
  var := fun _ name _ => contexts.env name
  call := fun _ name _ _ _ => contexts.answers name same

/-- Two trees end alike, each in its context. -/
abbrev OutcomesAlike (S : Span → Span → Prop) (ctx ctx' : Context) (e e' : Expr) : Prop :=
  EndAlike (Value.Alike S) (Failure.Alike S) (e.outcome ctx) (e'.outcome ctx')

/-- One node: its outcome depends on its parts only through theirs. -/
theorem Matching.outcome (matching : Matching S (OutcomesAlike S ctx ctx') e e')
    (contexts : Context.Alike S ctx ctx') : OutcomesAlike S ctx ctx' e e' := by
  refine alike_of_conclusions (.mapM matching.operands)
    fun values values' evaluated evaluated' same => ?_
  have concluded := matching.conclude contexts.reflexive (contexts.tell e same) evaluated
    evaluated' same
  refine concluded.imp fun _ _ _ alike => alike.outcome (fun b b' _ ended => ended) ?_
  exact fun v v' moved => Value.alike_withSpan moved.text matching.span

/-- Whole trees: they end alike if they match at each node. -/
theorem outcomesAlike_of_matching (contexts : Context.Alike S ctx ctx')
    (matching : ∀ {e e'}, R e e' → Matching S R e e') (trees : R e e') :
    OutcomesAlike S ctx ctx' e e' := by
  have sides : SideBySide ctx ctx' R (Value.Alike S) (Failure.Alike S) :=
    { operands := fun trees => (matching trees).operands
      conclude := fun {e _ _ _} trees evaluated evaluated' same =>
        (matching trees).conclude contexts.reflexive (contexts.tell e same) evaluated evaluated'
          same
      moved := fun trees moved => Value.alike_withSpan moved.text (matching trees).span }
  exact sides.outcome trees

end TextExpr.Expr
