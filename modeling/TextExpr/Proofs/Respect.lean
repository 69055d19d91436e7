import TextExpr.Proofs.Report

/-!
# What operators and functions do with spans

Values that are alike under a relation of spans are read alike, and operators and functions make
of them the same text, or fail alike. The relation may be any that relates each span to itself:
no operator and no built-in function looks at a span, and one that is put into an error is the
span of an operand. A function of the host has to be trusted to do the same.
-/
namespace TextExpr

variable {S : Span → Span → Prop} {l l' r r' : Value}

theorem ReadsText.alike {α : Type} {read : Value → Except EvalError α} (reads : ReadsText read)
    (same : l.Alike S l') :
    EndAlike Eq (Failure.Alike S) ((read l).mapError .error) ((read l').mapError .error) := by
  rcases reads l l' same.text with ⟨a, ended, ended'⟩ | ⟨target, cause, refused, refused'⟩
  · rw [ended, ended']
    exact .ok rfl
  · rw [refused, refused']
    exact .error (.error rfl rfl (EvalError.alike_conversion same target cause))

/-- Ends in the same text, or in failures that are alike. -/
abbrev EndInText (S : Span → Span → Prop) : Except Failure Value → Except Failure Value → Prop :=
  EndAlike (fun v w => v.text = w.text) (Failure.Alike S)

theorem EndInText.refl (reflexive : ∀ s, S s s) (x : Except Failure Value) : EndInText S x x :=
  EndAlike.refl_of (V := fun v w : Value => v.text = w.text) (fun _ => rfl)
    (Failure.Alike.refl reflexive) x

section Operators

variable {op : BinOp}

theorem ReadsText.readBoth_alike {α : Type} {read : Value → Except EvalError α}
    (reads : ReadsText read) (left : l.Alike S l') (right : r.Alike S r') (f : α → α → Value) :
    EndInText S (readBoth read l r f) (readBoth read l' r' f) := by
  unfold readBoth
  rw [mapError_bind, mapError_bind]
  refine (reads.alike left).bind fun a a' _ _ same => ?_
  rw [mapError_bind, mapError_bind]
  refine (reads.alike right).bind fun b b' _ _ same' => ?_
  rw [same, same']
  exact .ok rfl

theorem addValues_congr (left : l.text = l'.text) (right : r.text = r'.text) :
    addValues l r = addValues l' r' := by
  unfold addValues
  rcases readsText_asDouble l l' left with ⟨x, read, read'⟩ | ⟨_, _, read, read'⟩
  · rcases readsText_asDouble r r' right with ⟨y, next, next'⟩ | ⟨_, _, next, next'⟩
    · simp only [read, read', next, next']
    · simp only [read, read', next, next', left, right]
  · simp only [read, read', left, right]

theorem matchText_congr (left : l.text = l'.text) (right : r.text = r'.text) :
    matchText l r = matchText l' r' := by
  simp only [matchText, left, right]

theorem applyBinary_alike (reflexive : ∀ s, S s s) (left : l.Alike S l') (right : r.Alike S r') :
    EndInText S (applyBinary op l r) (applyBinary op l' r') := by
  have compared : l.same r = l'.same r' := by simp only [Value.same, left.text, right.text]
  cases op with
  | equals | notEquals =>
    simp only [applyBinary, compared]
    exact .ok rfl
  | and | or => exact readsText_asBool.readBoth_alike left right _
  | plus => exact .ok (congrArg Value.text (addValues_congr left.text right.text))
  | minus | times | div | mod | greaterThan | lessThan =>
    exact readsText_asDouble.readBoth_alike left right _
  | elvis =>
    have empty : l.isEmpty = l'.isEmpty := by simp only [Value.isEmpty, left.text]
    refine .ok ?_
    rw [empty]
    cases l'.isEmpty with
    | true => exact right.text
    | false => exact left.text
  | regexMatch =>
    simp only [applyBinary, matchText_congr left.text right.text]
    exact .refl reflexive _
  | undeclared symbol => exact .error (.fault _)

theorem applyUnary_alike {op : UnaryOp} (operand : l.Alike S l') :
    EndInText S (applyUnary op l) (applyUnary op l') := by
  cases op with
  | not =>
    simp only [applyUnary, map_eq_bind, mapError_bind]
    refine (readsText_asBool.alike operand).bind fun b b' _ _ same => ?_
    rw [same]
    exact .ok rfl
  | undeclared symbol => exact .error (.fault _)

theorem memberAt_congr (members : List (Text × Json)) (key : r.text = r'.text) :
    memberAt members r = memberAt members r' := by
  unfold memberAt
  rw [key]
  rcases readsText_asI32 r r' key with ⟨i, read, read'⟩ | ⟨_, _, read, read'⟩
  · rw [read, read']
  · rw [read, read']

theorem indexValue_alike {s s' : Span} (spans : S s s') (container : l.Alike S l')
    (key : r.Alike S r') :
    EndInText S ((indexValue s l r).mapError .error) ((indexValue s' l' r').mapError .error) := by
  unfold indexValue
  rw [mapError_bind, mapError_bind]
  refine (readsText_asJson.alike container).bind fun j j' _ _ same => ?_
  subst same
  cases j with
  | list items =>
    simp only [mapError_bind]
    refine (readsText_asI32.alike key).bind fun i i' _ _ same => ?_
    rw [same]
    exact .ok rfl
  | obj members =>
    simp only [memberAt_congr members key.text]
    exact .ok rfl
  | null | bool | int | float | str =>
    simp only [container.text]
    have scalar : (EvalError.cannotIndex l'.text).Alike S (.cannotIndex l'.text) :=
      ⟨rfl, rfl, rfl, .nil⟩
    exact .error (.error rfl rfl (scalar.within spans))

end Operators

section Functions

variable {args args' : List Value} {source : Option Source}

theorem round_alike (reflexive : ∀ s, S s s) (same : List.Forall₂ (Value.Alike S) args args') :
    EndInText S (Builtin.round args) (Builtin.round args') := by
  match same with
  | .cons first (.cons second .nil) =>
    have read : ∀ number places : Value, Builtin.round [number, places] =
        (number.asDouble.mapError .error >>= fun x => places.asI32.mapError .error >>= fun n =>
          .ok (.ofText (x.fixedText n.toNat))) := by
      intro number places
      simp only [Builtin.round]
      cases number.asDouble <;> cases places.asI32 <;> rfl
    rw [read, read]
    refine (readsText_asDouble.alike first).bind fun x x' _ _ same => ?_
    refine (readsText_asI32.alike second).bind fun n n' _ _ same' => ?_
    rw [same, same']
    exact .ok rfl
  | .nil | .cons _ .nil | .cons _ (.cons _ (.cons _ _)) => exact .refl reflexive _

theorem replace_alike (reflexive : ∀ s, S s s) (same : List.Forall₂ (Value.Alike S) args args') :
    EndInText S (Builtin.replace args) (Builtin.replace args') := by
  match same with
  | .cons subject (.cons pattern (.cons replacement .nil)) =>
    simp only [Builtin.replace, subject.text, pattern.text, replacement.text]
    exact .refl reflexive _
  | .nil | .cons _ .nil | .cons _ (.cons _ .nil) | .cons _ (.cons _ (.cons _ (.cons _ _))) =>
    exact .refl reflexive _

/-- What the host answers to a call. Without a host nothing is defined. -/
def hostAnswer (source : Option Source) (name : Text) (args : List Value) :
    Except Failure (Option Value) :=
  match source with
  | none => .ok none
  | some s => (s.run name args).outcome

/-- The same text or none, or failures that are alike. -/
abbrev AnswerInText (S : Span → Span → Prop) :
    Except Failure (Option Value) → Except Failure (Option Value) → Prop :=
  EndAlike (fun found found' => found.map Value.text = found'.map Value.text) (Failure.Alike S)

theorem AnswerInText.refl (reflexive : ∀ s, S s s) (x : Except Failure (Option Value)) :
    AnswerInText S x x :=
  EndAlike.refl_of (V := fun a b : Option Value => a.map Value.text = b.map Value.text)
    (fun _ => rfl) (Failure.Alike.refl reflexive) x

/-- The host answers alike to arguments that are alike. -/
def Source.Respects (S : Span → Span → Prop) (source : Source) : Prop :=
  ∀ name args args', List.Forall₂ (Value.Alike S) args args' →
    AnswerInText S (source.run name args).outcome (source.run name args').outcome

theorem hostAnswer_alike (respects : ∀ s, source = some s → s.Respects S) (name : Text)
    (same : List.Forall₂ (Value.Alike S) args args') :
    AnswerInText S (hostAnswer source name args) (hostAnswer source name args') := by
  cases source with
  | none => exact .ok rfl
  | some s => exact respects s rfl name args args' same

/-- A name that is not defined is an unknown function. -/
theorem callHost_outcome (name : Text) (args : List Value) (source : Option Source) :
    (callHost name args source).outcome = hostAnswer source name args >>= fun found =>
      match found with
      | some v => .ok v
      | none => .error (.error (.unknownFunction name)) := by
  cases source with
  | none => rfl
  | some s =>
    simp only [callHost, hostAnswer, Run.outcome_bind]
    refine congrArg _ (funext fun found => ?_)
    cases found <;> rfl

/-- Calls end alike, in two evaluations, if the host answers them alike. -/
theorem callHost_alike {name : Text} {source' : Option Source} (reflexive : ∀ s, S s s)
    (answers : AnswerInText S (hostAnswer source name args) (hostAnswer source' name args')) :
    EndInText S (callHost name args source).outcome (callHost name args' source').outcome := by
  rw [callHost_outcome, callHost_outcome]
  refine answers.bind fun found found' _ _ same => ?_
  match found, found', same with
  | some v, some v', same => exact .ok (Option.some.inj same)
  | none, none, _ => exact EndInText.refl reflexive _

/-- The built-in functions come first, so the host matters for other names alone. -/
theorem callFunction_alike {name : Text} {source' : Option Source} (reflexive : ∀ s, S s s)
    (same : List.Forall₂ (Value.Alike S) args args')
    (answers : name ∉ Builtin.names →
      AnswerInText S (hostAnswer source name args) (hostAnswer source' name args')) :
    EndInText S (callFunction name args source).outcome
      (callFunction name args' source').outcome := by
  by_cases isRound : name = Builtin.roundName
  · subst isRound
    exact round_alike reflexive same
  by_cases isReplace : name = Builtin.replaceName
  · subst isReplace
    exact replace_alike reflexive same
  have notBuiltin : name ∉ Builtin.names := by simp [Builtin.names, isRound, isReplace]
  rw [callFunction_host isRound isReplace, callFunction_host isRound isReplace]
  exact callHost_alike reflexive (answers notBuiltin)

end Functions

end TextExpr
