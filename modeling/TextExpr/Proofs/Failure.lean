import TextExpr.Eval
import TextExpr.Proofs.Conversion
import TextExpr.Proofs.Run

/-!
# What operators and functions can fail with

Each operator and each built-in function with the failures it has. A value that is not read is
reported as that value, and a pattern that is refused is an error of the language or one of two
faults.
-/
namespace TextExpr

variable {e : EvalError} {f : Failure} {v : Value}

theorem error?_locate (s : Span) (f : Failure) :
    (f.locate s).error? = f.error?.map (·.within s) := by
  cases f <;> rfl

section Pattern

variable {t : Text}

/-- A refusal that is an error of the language, and no fault. -/
def Pattern.Refusal.IsError : Pattern.Refusal → Prop
  | .flagConflict => False
  | .tooManyDigits _ => False
  | _ => True

theorem compilePattern_eq_error_iff : compilePattern t = .error f ↔
    (Pattern.compile t = .error .flagConflict ∧ f = .fault .patternFlags) ∨
    (∃ count, Pattern.compile t = .error (.tooManyDigits count) ∧ f = .fault (.digitLimit count)) ∨
    ∃ r, Pattern.compile t = .error r ∧ r.IsError ∧ f = .error (.invalidRegex (r.message t)) := by
  unfold compilePattern
  cases compiled : Pattern.compile t with
  | ok p => simp
  | error r =>
    cases r <;> simp [Pattern.Refusal.IsError, eq_comm]

end Pattern

section Readings

variable {α : Type} {read : Value → Except EvalError α} {left right : Value} {a b : α}

theorem readBoth_taken (onLeft : read left = .ok a) (onRight : read right = .ok b)
    (g : α → α → Value) : readBoth read left right g = .ok (g a b) := by
  rw [readBoth, onLeft, onRight]
  rfl

theorem readBoth_left (refused : read left = .error e) (g : α → α → Value) :
    readBoth read left right g = .error (.error e) := by
  rw [readBoth, refused]
  rfl

theorem readBoth_right (taken : read left = .ok a) (refused : read right = .error e)
    (g : α → α → Value) : readBoth read left right g = .error (.error e) := by
  rw [readBoth, taken, refused]
  rfl

theorem readBoth_eq_ok_iff {g : α → α → Value} :
    readBoth read left right g = .ok v ↔
      ∃ a b, read left = .ok a ∧ read right = .ok b ∧ g a b = v := by
  constructor
  · intro made
    obtain ⟨a, onLeft, rest⟩ := bind_eq_ok_iff.mp (mapError_eq_ok_iff.mp made)
    obtain ⟨b, onRight, result⟩ := bind_eq_ok_iff.mp rest
    exact ⟨a, b, onLeft, onRight, Except.ok.inj result⟩
  · rintro ⟨a, b, onLeft, onRight, rfl⟩
    exact readBoth_taken onLeft onRight g

/-- What goes wrong is an error about the first operand that is not read. -/
theorem ReadsText.readBoth_error (reads : ReadsText read) {g : α → α → Value}
    (failed : readBoth read left right g = .error f) :
    ∃ e, f = .error e ∧ (e.Rejects left ∨ e.Rejects right) := by
  cases onLeft : read left with
  | error e =>
    cases (readBoth_left onLeft g).symm.trans failed
    exact ⟨e, rfl, Or.inl (reads.rejects onLeft)⟩
  | ok a =>
    cases onRight : read right with
    | error e =>
      cases (readBoth_right onLeft onRight g).symm.trans failed
      exact ⟨e, rfl, Or.inr (reads.rejects onRight)⟩
    | ok b => cases (readBoth_taken onLeft onRight g).symm.trans failed

end Readings

section Binary

variable {op : BinOp} {left right : Value}

theorem matchText_eq_error_iff {text pattern : Value} :
    matchText text pattern = .error f ↔ compilePattern pattern.text = .error f := by
  unfold matchText
  simp [bind_eq_error_iff, Pure.pure, Except.pure]

/-- An operator that is declared fails with an error about an operand, or because a pattern
is refused. -/
theorem applyBinary_error (failed : applyBinary op left right = .error f) :
    (∃ e, f = .error e ∧ (e.Rejects left ∨ e.Rejects right)) ∨
    (op = .regexMatch ∧ compilePattern right.text = .error f) ∨
    ∃ symbol, op = .undeclared symbol ∧ f = .fault (.unknownBinaryOp symbol) := by
  cases op with
  | equals | notEquals | plus | elvis => cases failed
  | and | or => exact Or.inl (readsText_asBool.readBoth_error failed)
  | minus | times | div | mod | greaterThan | lessThan =>
    exact Or.inl (readsText_asDouble.readBoth_error failed)
  | regexMatch => exact Or.inr (Or.inl ⟨rfl, matchText_eq_error_iff.mp failed⟩)
  | undeclared symbol =>
    cases failed
    exact Or.inr (Or.inr ⟨symbol, rfl, rfl⟩)

end Binary

theorem applyUnary_error {op : UnaryOp} (failed : applyUnary op v = .error f) :
    (∃ e, f = .error e ∧ e.Rejects v) ∨
    ∃ symbol, op = .undeclared symbol ∧ f = .fault (.unknownUnaryOp symbol) := by
  cases op with
  | not =>
    obtain ⟨e, rejected, rfl⟩ := mapError_eq_error_iff.mp failed
    exact Or.inl ⟨e, rfl, readsText_asBool.rejects (map_eq_error_iff.mp rejected)⟩
  | undeclared symbol =>
    cases failed
    exact Or.inr ⟨symbol, rfl, rfl⟩

/-- A document that holds no others can not be indexed. -/
def Json.IsScalar : Json → Prop
  | .list _ => False
  | .obj _ => False
  | _ => True

theorem indexValue_error {s : Span} {container key : Value}
    (failed : indexValue s container key = .error e) :
    e.Rejects container ∨ e.Rejects key ∨
    (∃ j, container.asJson = .ok j ∧ j.IsScalar) ∧
      e = (EvalError.cannotIndex container.text).within s := by
  unfold indexValue at failed
  rcases bind_eq_error_iff.mp failed with failed | ⟨j, read, failed⟩
  · exact Or.inl (readsText_asJson.rejects failed)
  cases j with
  | list items =>
    simp only [bind_eq_error_iff] at failed
    rcases failed with failed | ⟨i, _, failed⟩
    · exact Or.inr (Or.inl (readsText_asI32.rejects failed))
    · cases failed
  | obj members => cases failed
  | null | bool | int | float | str =>
    cases failed
    exact Or.inr (Or.inr ⟨⟨_, read, trivial⟩, rfl⟩)

section Function

variable {values : List Value}

theorem round_error (failed : Builtin.round values = .error f) :
    (f = .error (.wrongArgCount Builtin.roundName) ∧ values.length ≠ 2) ∨
    ∃ v ∈ values, ∃ e, f = .error e ∧ e.Rejects v := by
  match values with
  | [number, places] =>
    simp only [Builtin.round] at failed
    split at failed
    next e rejected =>
      cases failed
      exact Or.inr ⟨number, by simp, e, rfl, readsText_asDouble.rejects rejected⟩
    next e _ rejected =>
      cases failed
      exact Or.inr ⟨places, by simp, e, rfl, readsText_asI32.rejects rejected⟩
    next => cases failed
  | [] | [_] | _ :: _ :: _ :: _ =>
    cases failed
    exact Or.inl ⟨rfl, by simp⟩

theorem replace_error (failed : Builtin.replace values = .error f) :
    (f = .error (.wrongArgCount Builtin.replaceName) ∧ values.length ≠ 3) ∨
    ∃ subject pattern replacement, values = [subject, pattern, replacement] ∧
      compilePattern pattern.text = .error f := by
  match values with
  | [subject, pattern, replacement] =>
    simp only [Builtin.replace] at failed
    split at failed
    next refused =>
      cases failed
      exact Or.inr ⟨subject, pattern, replacement, rfl, refused⟩
    next => cases failed
  | [] | [_] | [_, _] | _ :: _ :: _ :: _ :: _ =>
    cases failed
    exact Or.inl ⟨rfl, by simp⟩

theorem replace_of_refused {subject pattern replacement : Value}
    (refused : compilePattern pattern.text = .error f) :
    Builtin.replace [subject, pattern, replacement] = .error f := by
  simp only [Builtin.replace, refused]

variable {name : Text} {source : Option Source}

theorem callFunction_round :
    (callFunction Builtin.roundName values source).outcome = Builtin.round values := rfl

theorem callFunction_replace :
    (callFunction Builtin.replaceName values source).outcome = Builtin.replace values := rfl

theorem callFunction_host (notRound : name ≠ Builtin.roundName)
    (notReplace : name ≠ Builtin.replaceName) :
    callFunction name values source = callHost name values source := by
  simp [callFunction, Builtin.find?, notRound, notReplace]

/-- The host fails by itself, or it does not define the name. -/
theorem callHost_error (failed : (callHost name values source).outcome = .error f) :
    f = .error (.unknownFunction name) ∨
    ∃ s, source = some s ∧ (s.run name values).outcome = .error f := by
  cases source with
  | none =>
    cases failed
    exact Or.inl rfl
  | some s =>
    simp only [callHost, Run.outcome_bind] at failed
    rcases bind_eq_error_iff.mp failed with failed | ⟨found, _, failed⟩
    · exact Or.inr ⟨s, rfl, failed⟩
    cases found with
    | some v => cases failed
    | none =>
      cases failed
      exact Or.inl rfl

end Function

end TextExpr
