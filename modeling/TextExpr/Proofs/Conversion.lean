import TextExpr.Value.Conversion

/-!
# Reading a value

Each reading looks at the text of a value alone. It gives what the text is read as, and else an
error about the value itself.
-/
namespace TextExpr

variable {e : EvalError} {v : Value}

/-- The error says that the value cannot be read. -/
def EvalError.Rejects (e : EvalError) (v : Value) : Prop :=
  ∃ target cause, e = .conversion v target cause

/-- The reading looks at the text alone, and refuses a value with an error about that value. -/
def ReadsText {α : Type} (read : Value → Except EvalError α) : Prop :=
  ∀ v w, v.text = w.text → (∃ a, read v = .ok a ∧ read w = .ok a) ∨
    ∃ target cause, read v = .error (.conversion v target cause) ∧
      read w = .error (.conversion w target cause)

theorem ReadsText.rejects {α : Type} {read : Value → Except EvalError α} (reads : ReadsText read)
    (failed : read v = .error e) : e.Rejects v := by
  rcases reads v v rfl with ⟨a, ended, _⟩ | ⟨target, cause, refused, _⟩
  · cases ended.symm.trans failed
  · exact ⟨target, cause, Except.error.inj (failed.symm.trans refused)⟩

theorem readsText_asBool : ReadsText Value.asBool := by
  intro v w same
  unfold Value.asBool
  rw [← same]
  split
  · exact Or.inl ⟨_, rfl, rfl⟩
  split
  · exact Or.inl ⟨_, rfl, rfl⟩
  · exact Or.inr ⟨_, _, rfl, rfl⟩

theorem readsText_asDouble : ReadsText Value.asDouble := by
  intro v w same
  unfold Value.asDouble
  rw [← same]
  split
  · exact Or.inl ⟨_, rfl, rfl⟩
  · exact Or.inr ⟨_, _, rfl, rfl⟩

theorem readsText_asI32 : ReadsText Value.asI32 := by
  intro v w same
  unfold Value.asI32
  rw [← same]
  split
  · exact Or.inl ⟨_, rfl, rfl⟩
  · exact Or.inr ⟨_, _, rfl, rfl⟩
  · exact Or.inr ⟨_, _, rfl, rfl⟩

theorem readsText_asJson : ReadsText Value.asJson := by
  intro v w same
  unfold Value.asJson
  rw [← same]
  split
  · exact Or.inl ⟨_, rfl, rfl⟩
  · exact Or.inr ⟨_, _, rfl, rfl⟩

theorem ReadsText.of_text {α : Type} {read : Value → Except EvalError α}
    (reads : ReadsText read) {v w : Value} {a : α} (same : v.text = w.text)
    (ok : read v = .ok a) : read w = .ok a := by
  rcases reads v w same with ⟨b, ended, ended'⟩ | ⟨_, _, refused, _⟩
  · cases ok.symm.trans ended
    exact ended'
  · cases ok.symm.trans refused

theorem Value.asDouble_eq_ok_iff {x : Double} :
    v.asDouble = .ok x ↔ Double.read? v.text = some x := by
  unfold Value.asDouble
  cases Double.read? v.text with
  | none => simp
  | some y => simp

theorem asI32_eq_ok_iff {i : Int} : v.asI32 = .ok i ↔ Numeral.readI32 v.text = .ok i := by
  unfold Value.asI32
  cases Numeral.readI32 v.text with
  | ok j => simp
  | error r => cases r <;> simp

theorem asJson_eq_ok_iff {x : Json} : v.asJson = .ok x ↔ Json.read v.text = .ok x := by
  rw [Value.asJson]
  cases Json.read v.text <;> simp

theorem Value.asDouble_refused (other : ∀ x, v.asDouble ≠ .ok x) :
    v.asDouble = .error (.conversion v (Text.ofString "f64") none) := by
  unfold Value.asDouble at other ⊢
  cases reads : Double.read? v.text with
  | none => rfl
  | some x =>
    rw [reads] at other
    exact absurd rfl (other x)

theorem Value.asI32_refused {e : EvalError} (refused : v.asI32 = .error e) :
    ∃ cause, e = .conversion v (Text.ofString "i32") cause := by
  unfold Value.asI32 at refused
  split at refused <;> cases refused <;> exact ⟨_, rfl⟩

theorem Value.exists_asI32_refused (other : ∀ i, v.asI32 ≠ .ok i) :
    ∃ cause, v.asI32 = .error (.conversion v (Text.ofString "i32") cause) := by
  cases reads : v.asI32 with
  | ok i => exact absurd reads (other i)
  | error e =>
    obtain ⟨cause, rfl⟩ := asI32_refused reads
    exact ⟨cause, rfl⟩

theorem Value.asJson_refused {e : EvalError} (refused : v.asJson = .error e) :
    ∃ cause, e = .conversion v (Text.ofString "json") (some cause) := by
  unfold Value.asJson at refused
  split at refused <;> cases refused
  exact ⟨_, rfl⟩

end TextExpr
