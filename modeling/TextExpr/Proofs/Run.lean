import Mathlib.Data.List.Forall2
import TextExpr.Log

/-!
# How computations end

The end of a sequence, a map and a traversal, told by how their parts end. What a run ends in
does not depend on what it writes.
-/
namespace TextExpr

section Items

variable {α β : Type} {R : α → β → Prop} {l : List α} {l' : List β}

theorem exists_of_mem_right {b : β} (related : List.Forall₂ R l l') (member : b ∈ l') :
    ∃ a ∈ l, R a b := by
  induction related with
  | nil => cases member
  | cons first _ ih =>
    rcases List.mem_cons.mp member with rfl | later
    · exact ⟨_, List.mem_cons_self, first⟩
    · obtain ⟨a, part, related⟩ := ih later
      exact ⟨a, List.mem_cons_of_mem _ part, related⟩

theorem exists_of_mem_left {a : α} (related : List.Forall₂ R l l') (member : a ∈ l) :
    ∃ b ∈ l', R a b := by
  have turned : List.Forall₂ (flip R) l' l := related.flip
  exact exists_of_mem_right turned member

end Items

section Except

variable {α β ε δ : Type}

theorem bind_eq_ok_iff {x : Except ε α} {f : α → Except ε β} {b : β} :
    x >>= f = .ok b ↔ ∃ a, x = .ok a ∧ f a = .ok b := by
  cases x <;> simp [Bind.bind, Except.bind]

theorem bind_eq_error_iff {x : Except ε α} {f : α → Except ε β} {e : ε} :
    x >>= f = .error e ↔ x = .error e ∨ ∃ a, x = .ok a ∧ f a = .error e := by
  cases x <;> simp [Bind.bind, Except.bind]

theorem map_eq_ok_iff {x : Except ε α} {f : α → β} {b : β} :
    x.map f = .ok b ↔ ∃ a, x = .ok a ∧ f a = b := by
  cases x <;> simp [Except.map]

theorem map_eq_error_iff {x : Except ε α} {f : α → β} {e : ε} :
    x.map f = .error e ↔ x = .error e := by
  cases x <;> simp [Except.map]

theorem bind_map {γ : Type} (x : Except ε α) (f : α → β) (g : β → Except ε γ) :
    x.map f >>= g = x >>= fun a => g (f a) := by
  cases x <;> rfl

theorem map_eq_bind (x : Except ε α) (f : α → β) :
    x.map f = x >>= fun a => .ok (f a) := by
  cases x <;> rfl

theorem mapError_eq_ok_iff {x : Except ε α} {f : ε → δ} {a : α} :
    x.mapError f = .ok a ↔ x = .ok a := by
  cases x <;> simp [Except.mapError]

theorem mapError_eq_error_iff {x : Except ε α} {f : ε → δ} {d : δ} :
    x.mapError f = .error d ↔ ∃ e, x = .error e ∧ f e = d := by
  cases x <;> simp [Except.mapError]

theorem mapError_bind (x : Except ε α) (f : α → Except ε β) (g : ε → δ) :
    (x >>= f).mapError g = x.mapError g >>= fun a => (f a).mapError g := by
  cases x <;> rfl

/-- A traversal succeeds exactly with the results of its items, in their order. -/
theorem mapM_eq_ok_iff {f : α → Except ε β} {l : List α} {bs : List β} :
    l.mapM f = .ok bs ↔ List.Forall₂ (fun a b => f a = .ok b) l bs := by
  induction l generalizing bs with
  | nil => cases bs <;> simp [Pure.pure, Except.pure]
  | cons a l ih =>
    rw [List.mapM_cons, List.forall₂_cons_left_iff]
    simp only [bind_eq_ok_iff, ih, Pure.pure, Except.pure, Except.ok.injEq]
    constructor
    · rintro ⟨b, hb, cs, hcs, rfl⟩
      exact ⟨b, cs, hb, hcs, rfl⟩
    · rintro ⟨b, cs, hb, hcs, rfl⟩
      exact ⟨b, hb, cs, hcs, rfl⟩

/-- A traversal fails exactly with the failure of the first item that has one. -/
theorem mapM_eq_error_iff {f : α → Except ε β} {l : List α} {e : ε} :
    l.mapM f = .error e ↔ ∃ before a after, l = before ++ a :: after ∧
      (∀ b ∈ before, ∃ v, f b = .ok v) ∧ f a = .error e := by
  induction l with
  | nil => simp [Pure.pure, Except.pure]
  | cons x l ih =>
    rw [List.mapM_cons]
    simp only [bind_eq_error_iff, ih, Pure.pure, Except.pure, reduceCtorEq, and_false,
      exists_false, or_false]
    constructor
    · rintro (hx | ⟨v, hv, before, a, after, rfl, ok, ha⟩)
      · exact ⟨[], x, l, rfl, by simp, hx⟩
      · exact ⟨x :: before, a, after, rfl, List.forall_mem_cons.mpr ⟨⟨v, hv⟩, ok⟩, ha⟩
    · rintro ⟨before, a, after, hl, ok, ha⟩
      cases before with
      | nil =>
        obtain ⟨rfl, rfl⟩ := List.cons.inj hl
        exact Or.inl ha
      | cons y before =>
        obtain ⟨rfl, rfl⟩ := List.cons.inj hl
        obtain ⟨⟨v, hv⟩, ok⟩ := List.forall_mem_cons.mp ok
        exact Or.inr ⟨v, hv, before, a, after, rfl, ok, ha⟩

theorem exists_mapM {f : α → Except ε β} {l : List α} (each : ∀ a ∈ l, ∃ b, f a = .ok b) :
    ∃ bs, l.mapM f = .ok bs := by
  cases traversed : l.mapM f with
  | ok bs => exact ⟨bs, rfl⟩
  | error e =>
    obtain ⟨before, a, after, rfl, _, failed⟩ := mapM_eq_error_iff.mp traversed
    obtain ⟨b, ended⟩ := each a (by simp)
    cases failed.symm.trans ended

end Except

namespace Run

variable {α β : Type}

@[simp] theorem outcome_pure (a : α) : (pure a : Run α).outcome = .ok a := rfl

@[simp] theorem outcome_bind (r : Run α) (f : α → Run β) :
    (r >>= f).outcome = r.outcome >>= fun a => (f a).outcome := by
  obtain ⟨log, outcome⟩ := r
  cases outcome <;> rfl

@[simp] theorem outcome_fail (f : Failure) : (fail f : Run α).outcome = .error f := rfl

@[simp] theorem outcome_mapFailure (f : Failure → Failure) (r : Run α) :
    (r.mapFailure f).outcome = r.outcome.mapError f := rfl

@[simp] theorem outcome_ofExcept (x : Except EvalError α) :
    (ofExcept x).outcome = x.mapError .error := by
  cases x <;> rfl

@[simp] theorem outcome_ofFaulty (x : Except Fault α) :
    (ofFaulty x).outcome = x.mapError .fault := by
  cases x <;> rfl

end Run

end TextExpr
