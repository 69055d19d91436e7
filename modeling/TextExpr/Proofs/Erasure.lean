import TextExpr.Proofs.Matching

/-!
# Spans are for diagnostics alone

Trees that are equal once their spans are erased have the same value but for its span, or fail
with the same error but for its spans. So it is also if the variables have values with other
spans, and if a host answers calls that looks at no span of its arguments.
-/
namespace TextExpr.Expr

variable {e e' : Expr}

mutual

/-- The tree with dummy spans, and no spans in the values of literals. -/
def erase : Expr → Expr
  | .lit _ v => .lit .dummy (.ofText v.text)
  | .var _ name => .var .dummy name
  | .bin _ op l r => .bin .dummy op (erase l) (erase r)
  | .un _ op e => .un .dummy op (erase e)
  | .cond _ c t e => .cond .dummy (erase c) (erase t) (erase e)
  | .index _ c k => .index .dummy (erase c) (erase k)
  | .call _ name args => .call .dummy name (eraseAll args)

def eraseAll : List Expr → List Expr
  | [] => []
  | e :: rest => erase e :: eraseAll rest

end

theorem eraseAll_eq (es : List Expr) : eraseAll es = es.map erase := by
  induction es with
  | nil => rfl
  | cons e rest ih => rw [eraseAll, ih, List.map_cons]

theorem forall₂_of_eraseAll_eq {es es' : List Expr} (same : eraseAll es = eraseAll es') :
    List.Forall₂ (fun e e' => e.erase = e'.erase) es es' := by
  rw [eraseAll_eq, eraseAll_eq, ← List.forall₂_eq_eq_eq] at same
  rw [List.forall₂_map_left_iff, List.forall₂_map_right_iff] at same
  exact same

/-- Trees with the same erasure match, and their parts have the same erasures. -/
theorem matching_of_erase_eq (same : e.erase = e'.erase) :
    Matching (fun _ _ => True) (fun c c' => c.erase = c'.erase) e e' := by
  cases e with
  | lit s v =>
    cases e' with
    | lit s' v' =>
      obtain ⟨_, value⟩ := Expr.lit.inj same
      exact .lit trivial (Value.mk.inj value).1
    | _ => cases same
  | var s name =>
    cases e' with
    | var s' name' =>
      obtain ⟨_, rfl⟩ := Expr.var.inj same
      exact .var trivial
    | _ => cases same
  | bin s op l r =>
    cases e' with
    | bin s' op' l' r' =>
      obtain ⟨_, rfl, left, right⟩ := Expr.bin.inj same
      exact .bin trivial left right
    | _ => cases same
  | un s op e =>
    cases e' with
    | un s' op' e' =>
      obtain ⟨_, rfl, operand⟩ := Expr.un.inj same
      exact .un trivial operand
    | _ => cases same
  | cond s c t e =>
    cases e' with
    | cond s' c' t' e' =>
      obtain ⟨_, test, yes, no⟩ := Expr.cond.inj same
      exact .cond trivial test yes no
    | _ => cases same
  | index s c k =>
    cases e' with
    | index s' c' k' =>
      obtain ⟨_, container, key⟩ := Expr.index.inj same
      exact .index trivial container key
    | _ => cases same
  | call s name args =>
    cases e' with
    | call s' name' args' =>
      obtain ⟨_, rfl, arguments⟩ := Expr.call.inj same
      exact .call trivial (forall₂_of_eraseAll_eq arguments)
    | _ => cases same

/-- Of two errors only the spans may differ, and not how many there are. -/
structure SameButSpans (error error' : EvalError) : Prop where
  classes : error.classes = error'.classes
  message : error.message = error'.message
  detail : error.detail = error'.detail
  length : error.spans.length = error'.spans.length

/-- Trees that differ in spans alone have the same text at the spans of their roots, or the same
error but for its spans, or the same fault. The host, if there is one, may be any that looks at
no span of the arguments that it is given. -/
theorem evaluate_erase (e e' : Expr) (env env' : Env) (source : Option Source)
    (settings : Settings) (trees : e.erase = e'.erase)
    (texts : ∀ name, (env name).map Value.text = (env' name).map Value.text)
    (blind : ∀ s, source = some s → s.Respects fun _ _ => True) :
    (∃ t, (evaluate e env source settings).outcome = .ok ⟨t, some e.span⟩ ∧
      (evaluate e' env' source settings).outcome = .ok ⟨t, some e'.span⟩) ∨
    (∃ f f' error error', (evaluate e env source settings).outcome = .error f ∧
      (evaluate e' env' source settings).outcome = .error f' ∧
      f.error? = some error ∧ f'.error? = some error' ∧ SameButSpans error error') ∨
    ∃ fault, (evaluate e env source settings).outcome = .error (.fault fault) ∧
      (evaluate e' env' source settings).outcome = .error (.fault fault) := by
  have contexts : Context.Alike (fun _ _ => True) ⟨env, source, settings.trace⟩
      ⟨env', source, settings.trace⟩ :=
    ⟨fun _ => trivial, texts, fun name _ _ same => hostAnswer_alike blind name same⟩
  have alike := outcomesAlike_of_matching contexts matching_of_erase_eq trees
  rcases alike.both with ⟨v, v', ended, ended', same⟩ | ⟨f, f', failed, failed', same⟩
  · refine Or.inl ⟨v.text, ?_, ?_⟩
    · rw [← outcome_span ended]
      exact ended
    · rw [same.text, ← outcome_span ended']
      exact ended'
  cases same with
  | error raised raised' same =>
    exact Or.inr (Or.inl ⟨f, f', _, _, failed, failed', raised, raised', same.classes,
      same.message, same.detail, same.spans.length_eq⟩)
  | fault fault => exact Or.inr (Or.inr ⟨fault, failed, failed'⟩)

/-- A host function refuses its argument with an error that shows the span of the argument. -/
theorem evaluate_erase_refused :
    let source : Source := ⟨"dates", fun _ args =>
      Run.fail (.error (.conversion (args.getD 0 ⟨[], none⟩) "date" none))⟩
    let e : Expr := .call ⟨0, 7, 0⟩ "date" [.var ⟨5, 6, 0⟩ "x"]
    let e' : Expr := .call ⟨40, 49, 1⟩ "date" [.var ⟨46, 47, 1⟩ "x"]
    let env : Env := .ofList [("x", ⟨"soon", some ⟨1, 5, 2⟩⟩)]
    let env' : Env := .ofList [("x", ⟨"soon", none⟩)]
    let error : EvalError := .conversion ⟨"soon", some ⟨5, 6, 0⟩⟩ "date" none
    let error' : EvalError := .conversion ⟨"soon", some ⟨46, 47, 1⟩⟩ "date" none
    e.erase = e'.erase ∧
      (∀ name, (env name).map Value.text = (env' name).map Value.text) ∧
      (∀ s, some source = some s → s.Respects fun _ _ => True) ∧
      (evaluate e env source {}).outcome =
        .error (.reported (error.within ⟨0, 7, 0⟩) (.error error)) ∧
      (evaluate e' env' source {}).outcome =
        .error (.reported (error'.within ⟨40, 49, 1⟩) (.error error')) ∧
      SameButSpans (error.within ⟨0, 7, 0⟩) (error'.within ⟨40, 49, 1⟩) := by
  intro source e e' env env' error error'
  have trees : e.erase = e'.erase := rfl
  have texts : ∀ name, (env name).map Value.text = (env' name).map Value.text := by
    intro name
    simp only [env, env', Env.ofList, List.lookup_cons, List.lookup_nil]
    split <;> rfl
  have blind : ∀ s, some source = some s → s.Respects fun _ _ => True := by
    rintro _ ⟨⟩ name args args' same
    have first : (args.getD 0 ⟨[], none⟩).Alike (fun _ _ => True) (args'.getD 0 ⟨[], none⟩) := by
      cases same with
      | nil => exact .refl (fun _ => trivial) _
      | cons first _ => exact first
    exact .error (.error rfl rfl (EvalError.alike_conversion first _ _))
  have failed : (evaluate e env source {}).outcome =
      .error (.reported (error.within ⟨0, 7, 0⟩) (.error error)) := by decide +kernel
  have failed' : (evaluate e' env' source {}).outcome =
      .error (.reported (error'.within ⟨40, 49, 1⟩) (.error error')) := by decide +kernel
  refine ⟨trees, texts, blind, failed, failed', ?_⟩
  rcases evaluate_erase e e' env env' source {} trees texts blind with
    ⟨t, ended, _⟩ | ⟨f, f', _, _, same, same', raised, raised', alike⟩ | ⟨fault, isFault, _⟩
  · cases failed.symm.trans ended
  · cases failed.symm.trans same
    cases failed'.symm.trans same'
    cases raised
    cases raised'
    exact alike
  · cases failed.symm.trans isFault

end TextExpr.Expr
