import Mathlib.Logic.Relation
import TextExpr.Proofs.Outcome

/-!
# The nodes that an evaluation comes to

Evaluation enters the operands of a node from left to right as long as they have values, and
then the branch that the node takes. A node raises a failure if its operands have values and
the node itself fails. An evaluation fails exactly with what a node that it comes to raises:
on the way to the root a failure is not changed.
-/
namespace TextExpr.Expr

variable {ctx : Context} {e n c : Expr} {f : Failure}

/-- Evaluation of a node comes to one of its parts. -/
inductive Enters (ctx : Context) : Expr → Expr → Prop where
  | operand {e before c after} (split : e.operands = before ++ c :: after)
      (succeed : ∀ b ∈ before, ∃ v, b.outcome ctx = .ok v) : Enters ctx e c
  | branch {e values b} (evaluated : e.OperandValues ctx values)
      (taken : e.conclude ctx values = .ok (.branch b)) : Enters ctx e b

/-- Evaluation of a tree comes to a node in it, the root at first. -/
def Visits (ctx : Context) : Expr → Expr → Prop := Relation.ReflTransGen (Enters ctx)

/-- The operands of a node have values, and the node fails. -/
def Raises (ctx : Context) (n : Expr) (f : Failure) : Prop :=
  ∃ values, n.OperandValues ctx values ∧ n.conclude ctx values = .error f

theorem OperandValues.unique {values values' : List Value}
    (evaluated : e.OperandValues ctx values) (evaluated' : e.OperandValues ctx values') :
    values = values' :=
  List.right_unique_forall₂' (fun _ _ _ h h' => Except.ok.inj (h.symm.trans h')) evaluated
    evaluated'

theorem conclude_branch_mem {values : List Value} {b : Expr}
    (evaluated : e.OperandValues ctx values) (taken : e.conclude ctx values = .ok (.branch b)) :
    b ∈ e.children := by
  obtain ⟨s, test, yes, no, v, t, rfl, _, _, rfl⟩ := conclude_branch evaluated taken
  cases t <;> simp [children]

theorem Enters.mem_children (enters : Enters ctx e c) : c ∈ e.children := by
  cases enters with
  | operand split succeed =>
    apply operands_subset_children e
    rw [split]
    simp
  | branch evaluated taken => exact conclude_branch_mem evaluated taken

theorem Visits.mem_nodes (visits : Visits ctx e n) : n ∈ e.nodes := by
  induction visits using Relation.ReflTransGen.head_induction_on with
  | refl => exact self_mem_nodes n
  | head enters _ ih => exact mem_nodes_of_child enters.mem_children ih

/-- One step: a node fails with what a part that it enters fails with, or with what it raises. -/
theorem outcome_eq_error_iff : e.outcome ctx = .error f ↔
    (∃ c, Enters ctx e c ∧ c.outcome ctx = .error f) ∨ e.Raises ctx f := by
  rw [outcome_eq, bind_eq_error_iff]
  simp only [bind_eq_error_iff, mapM_eq_ok_iff, mapM_eq_error_iff]
  constructor
  · rintro (⟨before, c, after, split, succeed, failed⟩ |
      ⟨values, evaluated, raised | ⟨conclusion, concluded, ended⟩⟩)
    · exact Or.inl ⟨c, .operand split succeed, failed⟩
    · exact Or.inr ⟨values, evaluated, raised⟩
    · cases conclusion with
      | value v => cases ended
      | branch b => exact Or.inl ⟨b, .branch evaluated concluded, map_eq_error_iff.mp ended⟩
  · rintro (⟨c, enters, failed⟩ | ⟨values, evaluated, raised⟩)
    · cases enters with
      | operand split succeed => exact Or.inl ⟨_, c, _, split, succeed, failed⟩
      | branch evaluated taken =>
        exact Or.inr ⟨_, evaluated, Or.inr ⟨_, taken, map_eq_error_iff.mpr failed⟩⟩
    · exact Or.inr ⟨values, evaluated, Or.inl raised⟩

theorem outcome_of_operand_failed {before after : List Expr}
    (split : e.operands = before ++ c :: after)
    (succeed : ∀ b ∈ before, ∃ v, b.outcome ctx = .ok v) (failed : c.outcome ctx = .error f) :
    e.outcome ctx = .error f :=
  outcome_eq_error_iff.mpr (Or.inl ⟨c, .operand split succeed, failed⟩)

theorem outcome_of_first_failed {after : List Expr} (split : e.operands = c :: after)
    (failed : c.outcome ctx = .error f) : e.outcome ctx = .error f := by
  have split' : e.operands = [] ++ c :: after := split
  exact outcome_of_operand_failed split' (by simp) failed

/-- An evaluation fails exactly with what a node that it comes to raises. -/
theorem outcome_eq_error_iff_raises : e.outcome ctx = .error f ↔
    ∃ n, Visits ctx e n ∧ n.Raises ctx f := by
  constructor
  · intro failed
    -- Going down, the failing part that is entered has the same failure.
    induction e using induction_children with
    | step e ih =>
      rcases outcome_eq_error_iff.mp failed with ⟨c, enters, failed⟩ | raises
      · obtain ⟨n, visits, raises⟩ := ih c enters.mem_children failed
        exact ⟨n, visits.head enters, raises⟩
      · exact ⟨e, .refl, raises⟩
  · rintro ⟨n, visits, raises⟩
    -- Going up, the failure passes unchanged through every node on the way.
    induction visits using Relation.ReflTransGen.head_induction_on with
    | refl => exact outcome_eq_error_iff.mpr (Or.inr raises)
    | head enters _ ih => exact outcome_eq_error_iff.mpr (Or.inl ⟨_, enters, ih⟩)

end TextExpr.Expr
