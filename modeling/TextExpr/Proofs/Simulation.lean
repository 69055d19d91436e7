import TextExpr.Proofs.Visit

/-!
# Two evaluations side by side

Two trees, each evaluated in a context of its own, are compared node by node. If related nodes
have related operands, and come from related values to related conclusions, then related trees
have related outcomes: two values or two failures.
-/
namespace TextExpr

/-- Two computations end alike: in related results or in related failures. -/
inductive EndAlike {α β : Type} (V : α → β → Prop) (F : Failure → Failure → Prop) :
    Except Failure α → Except Failure β → Prop where
  | ok {a b} (related : V a b) : EndAlike V F (.ok a) (.ok b)
  | error {f g} (related : F f g) : EndAlike V F (.error f) (.error g)

namespace EndAlike

variable {α β γ δ : Type} {V : α → β → Prop} {W : γ → δ → Prop} {F : Failure → Failure → Prop}

theorem both {x : Except Failure α} {y : Except Failure β} (alike : EndAlike V F x y) :
    (∃ a b, x = .ok a ∧ y = .ok b ∧ V a b) ∨ ∃ f g, x = .error f ∧ y = .error g ∧ F f g := by
  cases alike with
  | ok related => exact Or.inl ⟨_, _, rfl, rfl, related⟩
  | error related => exact Or.inr ⟨_, _, rfl, rfl, related⟩

theorem bind {x : Except Failure α} {y : Except Failure β} {f : α → Except Failure γ}
    {g : β → Except Failure δ} (first : EndAlike V F x y)
    (next : ∀ a b, x = .ok a → y = .ok b → V a b → EndAlike W F (f a) (g b)) :
    EndAlike W F (x >>= f) (y >>= g) := by
  cases first with
  | ok related => exact next _ _ rfl rfl related
  | error related => exact .error related

theorem map {x : Except Failure α} {y : Except Failure β} {f : α → γ} {g : β → δ}
    (first : EndAlike V F x y) (next : ∀ a b, V a b → W (f a) (g b)) :
    EndAlike W F (x.map f) (y.map g) := by
  cases first with
  | ok related => exact .ok (next _ _ related)
  | error related => exact .error related

theorem mapError {G : Failure → Failure → Prop} {x : Except Failure α} {y : Except Failure β}
    {f g : Failure → Failure} (first : EndAlike V F x y) (next : ∀ a b, F a b → G (f a) (g b)) :
    EndAlike V G (x.mapError f) (y.mapError g) := by
  cases first with
  | ok related => exact .ok related
  | error related => exact .error (next _ _ related)

/-- Traversals end alike if the computations of their items do, one after the other. -/
theorem mapM {ι κ : Type} {f : ι → Except Failure α} {g : κ → Except Failure β}
    {l : List ι} {l' : List κ} (items : List.Forall₂ (fun i j => EndAlike V F (f i) (g j)) l l') :
    EndAlike (List.Forall₂ V) F (l.mapM f) (l'.mapM g) := by
  induction items with
  | nil => exact .ok .nil
  | cons first _ ih =>
    rw [List.mapM_cons, List.mapM_cons]
    refine first.bind fun a b _ _ head => ih.bind fun as bs _ _ tail => ?_
    exact .ok (.cons head tail)

/-- The same for one list: only the items that the first traversal comes to have to end alike. -/
theorem mapM_of_reached {ι : Type} {f : ι → Except Failure α} {g : ι → Except Failure β}
    {l : List ι} (reached : ∀ before i after, l = before ++ i :: after →
      (∀ b ∈ before, ∃ a, f b = .ok a) → EndAlike V F (f i) (g i)) :
    EndAlike (List.Forall₂ V) F (l.mapM f) (l.mapM g) := by
  induction l with
  | nil => exact .ok .nil
  | cons i l ih =>
    rw [List.mapM_cons, List.mapM_cons]
    refine (reached [] i l rfl (by simp)).bind fun a b ended _ head => ?_
    have rest : EndAlike (List.Forall₂ V) F (l.mapM f) (l.mapM g) := by
      refine ih fun before j after split succeed => ?_
      refine reached (i :: before) j after (by rw [split]; rfl) ?_
      exact List.forall_mem_cons.mpr ⟨⟨a, ended⟩, succeed⟩
    exact rest.bind fun as bs _ _ tail => .ok (.cons head tail)

theorem imp {W : α → β → Prop} {x : Except Failure α} {y : Except Failure β}
    (alike : EndAlike V F x y) (weaker : ∀ a b, x = .ok a → V a b → W a b) :
    EndAlike W F x y := by
  cases alike with
  | ok related => exact .ok (weaker _ _ rfl related)
  | error related => exact .error related

theorem imp_failure {G : Failure → Failure → Prop} {x : Except Failure α} {y : Except Failure β}
    (alike : EndAlike V F x y) (weaker : ∀ f g, x = .error f → F f g → G f g) :
    EndAlike V G x y := by
  cases alike with
  | ok related => exact .ok related
  | error related => exact .error (weaker _ _ rfl related)

theorem refl_of {V : α → α → Prop} (values : ∀ a, V a a) (failures : ∀ f, F f f)
    (x : Except Failure α) : EndAlike V F x x := by
  cases x with
  | ok a => exact .ok (values a)
  | error f => exact .error (failures f)

theorem refl (x : Except Failure α) : EndAlike Eq Eq x x :=
  refl_of (fun _ => rfl) (fun _ => rfl) x

theorem eq {x y : Except Failure α} (alike : EndAlike Eq Eq x y) : x = y := by
  cases alike with
  | ok related => rw [related]
  | error related => rw [related]

end EndAlike

namespace Expr

variable {ctx ctx' : Context} {R : Expr → Expr → Prop} {V : Value → Value → Prop}
  {F : Failure → Failure → Prop}

/-- Two conclusions of one kind, with related values or related branches. -/
inductive Conclusion.Related (V : Value → Value → Prop) (R : Expr → Expr → Prop) :
    Conclusion → Conclusion → Prop where
  | value {v w} (related : V v w) : Related V R (.value v) (.value w)
  | branch {b c} (related : R b c) : Related V R (.branch b) (.branch c)

theorem Conclusion.Related.eq {c c' : Conclusion} (related : Related Eq Eq c c') : c = c' := by
  cases related with
  | value same => rw [same]
  | branch same => rw [same]

/-- Conclusions that are related end alike, if the branches they go on with do. -/
theorem Conclusion.Related.outcome {c c' : Conclusion} {s s' : Span} (related : Related V R c c')
    (branches : ∀ b b', c = .branch b → R b b' → EndAlike V F (b.outcome ctx) (b'.outcome ctx'))
    (moved : ∀ v v', V v v' → V (v.withSpan s) (v'.withSpan s')) :
    EndAlike V F (c.outcome ctx s) (c'.outcome ctx' s') := by
  cases related with
  | value related => exact .ok related
  | branch related => exact (branches _ _ rfl related).map moved

/-- What the nodes of two trees have to do with each other for their evaluations to go on
side by side. -/
structure SideBySide (ctx ctx' : Context) (R : Expr → Expr → Prop) (V : Value → Value → Prop)
    (F : Failure → Failure → Prop) : Prop where
  operands : ∀ {e e'}, R e e' → List.Forall₂ R e.operands e'.operands
  conclude : ∀ {e e' values values'}, R e e' → e.OperandValues ctx values →
    e'.OperandValues ctx' values' → List.Forall₂ V values values' →
    EndAlike (Conclusion.Related V R) F (e.conclude ctx values) (e'.conclude ctx' values')
  moved : ∀ {e e' v v'}, R e e' → V v v' → V (v.withSpan e.span) (v'.withSpan e'.span)

/-- One node: it ends alike in both evaluations if its operands do, and what it concludes from
their values. -/
theorem alike_of_conclusions {e e' : Expr}
    (operands : EndAlike (List.Forall₂ V) F (e.operands.mapM (outcome ctx))
      (e'.operands.mapM (outcome ctx')))
    (conclusions : ∀ values values', e.OperandValues ctx values → e'.OperandValues ctx' values' →
      List.Forall₂ V values values' →
      EndAlike (fun c c' => EndAlike V F (c.outcome ctx e.span) (c'.outcome ctx' e'.span)) F
        (e.conclude ctx values) (e'.conclude ctx' values')) :
    EndAlike V F (e.outcome ctx) (e'.outcome ctx') := by
  rw [outcome_eq ctx e, outcome_eq ctx' e']
  refine operands.bind fun values values' ended ended' alike => ?_
  have evaluated : e.OperandValues ctx values := mapM_eq_ok_iff.mp ended
  have evaluated' : e'.OperandValues ctx' values' := mapM_eq_ok_iff.mp ended'
  exact (conclusions values values' evaluated evaluated' alike).bind fun _ _ _ _ alike => alike

theorem SideBySide.outcome (sides : SideBySide ctx ctx' R V F) {e e' : Expr}
    (related : R e e') : EndAlike V F (e.outcome ctx) (e'.outcome ctx') := by
  induction e using induction_children generalizing e' with
  | step e ih =>
    have operands : List.Forall₂ (fun c c' => EndAlike V F (c.outcome ctx) (c'.outcome ctx'))
        e.operands e'.operands := by
      have parts := List.forall₂_and_left _ _ |>.mpr
        ⟨fun c part => operands_subset_children e part, sides.operands related⟩
      exact parts.imp fun c c' ⟨part, related⟩ => ih c part related
    refine alike_of_conclusions (.mapM operands) fun values values' evaluated evaluated' alike => ?_
    refine (sides.conclude related evaluated evaluated' alike).imp fun _ _ concluded alike => ?_
    refine alike.outcome (fun b b' taken related => ?_) fun v v' => sides.moved related
    subst taken
    exact ih b (conclude_branch_mem evaluated concluded) related

end Expr

end TextExpr
