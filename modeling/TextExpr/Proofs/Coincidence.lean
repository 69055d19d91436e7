import TextExpr.Proofs.Matching

/-!
# What an evaluation looks at

The outcome of an evaluation is settled by the nodes that the evaluation comes to. Of the
environment it looks at the texts of the variables among them, and of the host at the answers to
calls of the functions among them that are not built in. Nothing else that is bound or defined
can be observed.
-/
namespace TextExpr.Expr

variable {ctx ctx' : Context} {e n : Expr} {values : List Value} {F : Failure → Failure → Prop}

/-- If each node that evaluation comes to makes the same of its operands in both contexts, then
so does the tree. -/
theorem alike_of_agreement (agree : ∀ n values, Visits ctx e n → n.OperandValues ctx values →
      n.OperandValues ctx' values →
      EndAlike Eq F (n.conclude ctx values) (n.conclude ctx' values)) :
    EndAlike Eq F (e.outcome ctx) (e.outcome ctx') := by
  induction e using induction_children with
  | step e ih =>
    have entered : ∀ c, Enters ctx e c → EndAlike Eq F (c.outcome ctx) (c.outcome ctx') :=
      fun c enters => ih c enters.mem_children fun n values visits =>
        agree n values (visits.head enters)
    refine alike_of_conclusions ?_ fun values values' evaluated evaluated' same => ?_
    · exact EndAlike.mapM_of_reached fun before c after split succeed =>
        entered c (.operand split succeed)
    · rw [List.forall₂_eq_eq_eq] at same
      subst same
      refine (agree e values .refl evaluated evaluated').imp fun conclusion _ concluded same => ?_
      subst same
      cases conclusion with
      | value v => exact .ok rfl
      | branch b =>
        refine (entered b (.branch evaluated concluded)).map fun v w same => ?_
        rw [same]

/-- A node concludes the same if the contexts tell it the same. -/
theorem conclude_agree (evaluated : n.OperandValues ctx values)
    (evaluated' : n.OperandValues ctx' values) (told : TellAlike Eq ctx ctx' n values values) :
    EndAlike Eq (Failure.Alike Eq) (n.conclude ctx values) (n.conclude ctx' values) := by
  have same : List.Forall₂ (Value.Alike Eq) values values :=
    List.forall₂_same.mpr fun v _ => .refl (fun _ => rfl) v
  have concluded := (Matching.refl n).conclude (fun _ => rfl) told evaluated evaluated' same
  refine concluded.imp fun _ _ _ alike => ?_
  cases alike with
  | value alike => rw [alike.eq]
  | branch equal => rw [equal]

/-- Contexts cannot be told apart that tell each node that evaluation comes to the same. -/
theorem sameOutcome_of_told
    (told : ∀ n values, Visits ctx e n → TellAlike Eq ctx ctx' n values values) :
    SameOutcome (e.outcome ctx) (e.outcome ctx') :=
  alike_of_agreement fun n values visits evaluated evaluated' =>
    conclude_agree evaluated evaluated' (told n values visits)

/-- Environments with the same texts for the variables of a tree, and hosts with the same answers
to the calls that occur in it and are not built in, cannot be told apart by evaluation. -/
theorem evaluate_coincide (e : Expr) (env env' : Env) (source source' : Option Source)
    (settings : Settings)
    (bindings : ∀ name ∈ e.varRefs,
      (env name).map Value.text = (env' name).map Value.text)
    (functions : ∀ s name args, .call s name args ∈ e.nodes → name ∉ Builtin.names →
      ∀ values, AnswerInText Eq (hostAnswer source name values) (hostAnswer source' name values)) :
    SameOutcome (evaluate e env source settings).outcome
      (evaluate e env' source' settings).outcome := by
  refine sameOutcome_of_told fun n values visits => ⟨?_, ?_⟩
  · rintro s name rfl
    exact bindings name (mem_varRefs_iff.mpr ⟨s, visits.mem_nodes⟩)
  · rintro s name args rfl notBuiltin
    exact functions s name args visits.mem_nodes notBuiltin values

/-- Two hosts that agree on `twice` alone: one of them also answers for `round`, and gives spans
of its own to its answers. -/
theorem evaluate_coincide_twice :
    let e : Expr := .call ⟨0, 18, 0⟩ "twice" [.call ⟨6, 17, 0⟩ "round"
      [.var ⟨12, 13, 0⟩ "x", .lit ⟨15, 16, 0⟩ ⟨"1", none⟩]]
    let env : Env := .ofList [("x", ⟨"1.25", some ⟨3, 7, 9⟩⟩)]
    let env' : Env := .ofList [("y", ⟨"0", none⟩), ("x", ⟨"1.25", none⟩)]
    let twice : List Value → Text := fun args => args.flatMap fun v => v.text ++ v.text
    let source : Source := ⟨"doubling", fun name args =>
      pure (if name = "twice" then some ⟨twice args, none⟩ else none)⟩
    let source' : Source := ⟨"everything", fun name args =>
      pure (some ⟨if name = "twice" then twice args else "0", some ⟨1, 1, 1⟩⟩)⟩
    (evaluate e env source {}).outcome = .ok ⟨"1.21.2", some ⟨0, 18, 0⟩⟩ ∧
      SameOutcome (evaluate e env source {}).outcome (evaluate e env' source' {}).outcome := by
  intro e env env' twice source source'
  have bindings : ∀ name ∈ e.varRefs,
      (env name).map Value.text = (env' name).map Value.text := by decide +kernel
  have functions : ∀ s name args, .call s name args ∈ e.nodes → name ∉ Builtin.names →
      ∀ values, AnswerInText Eq (hostAnswer source name values)
        (hostAnswer source' name values) := by
    intro s name args inside notBuiltin values
    have called : name = "twice" := by
      simp only [e, nodes, nodesOfAll, List.mem_cons, call.injEq, List.append_nil,
        List.mem_append, List.not_mem_nil, or_false, reduceCtorEq] at inside
      rcases inside with ⟨_, rfl, _⟩ | ⟨_, rfl, _⟩
      · rfl
      · exact absurd (by decide +kernel) notBuiltin
    subst called
    exact .ok rfl
  exact ⟨by decide +kernel, evaluate_coincide e env env' source source' {} bindings functions⟩

end TextExpr.Expr
