import TextExpr.Proofs.Unresolved
import TextExpr.Proofs.Walk

/-!
# Renaming variables

A renaming that goes down through the parts of nodes gives each variable its new name and leaves
everything else. The renamed tree has the renamed variables, and it resolves and evaluates as the
tree itself does where each variable has the value of its new name. Only an error about a variable
without a value tells the trees apart: it speaks of the new name. Two variables may get one name.
-/
namespace TextExpr

/-- The same error about the new name of a variable that was not known when it was resolved. -/
def EvalError.renameUnknown (ρ : Text → Text) : EvalError → EvalError
  | .spanned s (.unknownVariable name) => .spanned s (.unknownVariable (ρ name))
  | e => e

/-- The same failure, with the new name of a variable that was found without a value. -/
def Failure.renameUnresolved (ρ : Text → Text) : Failure → Failure
  | .error (.spanned s (.unresolvedVariable name)) =>
    .error (.spanned s (.unresolvedVariable (ρ name)))
  | f => f

theorem Failure.renameUnresolved_eq_self {f : Failure} (ρ : Text → Text)
    (other : ∀ s name, f ≠ .error (.spanned s (.unresolvedVariable name))) :
    f.renameUnresolved ρ = f := by
  unfold renameUnresolved
  split
  next s name => exact absurd rfl (other s name)
  next => rfl

namespace Expr

variable {ctx : Context} {e n : Expr} {ρ : Text → Text} {values : List Value} {f : Failure}
  {s : Span} {name : Text}

/-- Each variable with its new name, at its span. -/
def rename (ρ : Text → Text) (e : Expr) : Expr := e.replaceVars fun s name => .var s (ρ name)

theorem span_rename (ρ : Text → Text) (e : Expr) : (e.rename ρ).span = e.span := by
  cases e <;> rfl

section Mapping

theorem rename_descends (ρ : Text → Text) :
    Descends (m := Id) (fun s name => .var s (ρ name)) (rename ρ) where
  lit := fun _ _ => rfl
  var := fun _ _ => rfl
  compound := fun e kind => by
    rw [mapParts_pure _ kind]
    exact replaceVars_compound _ kind

/-- Whatever renames the parts of a node makes the renamed node of them. -/
theorem renameNoting_walks (ρ : Text → Text) :
    Walks (fun e r => r = e.rename ρ) (renameNoting ρ) where
  terminal e seen kind := by
    cases e with
    | lit | var => exact ⟨_, rfl, rfl⟩
    | _ => cases kind
  compound _ kind := renameNoting_compound ρ kind
  related e parts kind each := by
    have renamed : parts = e.children.map (rename ρ) := by
      rw [← List.forall₂_eq_eq_eq, List.forall₂_map_right_iff]
      exact each.flip
    rw [rename, replaceVars_compound _ kind, renamed]
    rfl

/-- A renaming that goes through the parts of the root gives the same tree. -/
theorem renameParts_fst (ρ : Text → Text) (e : Expr) : (e.renameParts ρ).1 = e.rename ρ := by
  obtain ⟨r, renamed, run⟩ := (renameNoting_walks ρ).run_mapParts e []
  rw [renameParts, run, renamed]

end Mapping

section Resolving

theorem occurrences_rename (ρ : Text → Text) (e : Expr) :
    (e.rename ρ).occurrences = e.occurrences.map fun o => (o.1, ρ o.2) := by
  rw [rename, occurrences_replaceVars, List.map_eq_flatMap]
  rfl

theorem varRefs_rename (ρ : Text → Text) (e : Expr) : (e.rename ρ).varRefs = e.varRefs.map ρ := by
  rw [varRefs_eq, occurrences_rename, varRefs_eq, List.map_map, List.map_map]
  rfl

/-- Values may be put into a tree before or after its variables are renamed. -/
theorem withValues_rename (ρ : Text → Text) (env : Env) (e : Expr) :
    (e.rename ρ).withValues env = (e.withValues fun name => env (ρ name)).rename ρ := by
  rw [rename, withValues, replaceVars_replaceVars, rename, withValues, replaceVars_replaceVars]
  congr
  funext s name
  rw [replaceVars_var]
  cases env (ρ name) <;> rfl

theorem firstUnbound?_rename (ρ : Text → Text) (env : Env) (e : Expr) :
    (e.rename ρ).firstUnbound? env =
      (e.firstUnbound? fun name => env (ρ name)).map fun o => (o.1, ρ o.2) := by
  rw [firstUnbound?, occurrences_rename, List.find?_map]
  rfl

/-- The renamed tree resolves as the tree does where each name has the value of its new name. -/
theorem resolve_rename (ρ : Text → Text) (env : Env) (e : Expr) :
    (e.rename ρ).resolve env =
      (e.resolve fun name => env (ρ name)).mapError (EvalError.renameUnknown ρ) := by
  cases resolved : e.resolve fun name => env (ρ name) with
  | ok r =>
    obtain ⟨bound, rfl⟩ := resolve_eq_ok_iff_withValues.mp resolved
    apply resolve_eq_ok_iff_withValues.mpr
    constructor
    · rw [varRefs_rename]
      exact List.forall_mem_map.mpr bound
    · rw [withValues_rename]
      exact (replaceVars_of_closed (varRefs_withValues bound)).symm
  | error refusal =>
    obtain ⟨o, first, rfl⟩ := resolve_eq_error_iff.mp resolved
    apply resolve_eq_error_iff.mpr
    refine ⟨(o.1, ρ o.2), ?_, rfl⟩
    rw [firstUnbound?_rename, first]
    rfl

end Resolving

section Evaluating

variable {ctx : Context} {env : Env} {source : Option Source} {trace trace' : Bool}

/-- Only a variable without a value fails with an error about it, and there the error is not given
in answer to another one: a host that speaks of an unresolved variable is reported. -/
theorem Raises.of_unresolved
    (raises : n.Raises ctx (.error ((EvalError.unresolvedVariable name).within s))) :
    n = .var s name ∧ ctx.env name = none := by
  have located := raises.errorAt rfl
  rcases located.of_variable rfl with ⟨_, _, rfl, unbound, root, spans⟩ | ⟨_, _, _, _, rfl, _, _⟩
  · cases root
    cases spans
    exact ⟨rfl, unbound⟩
  · obtain ⟨values, _, failed⟩ := raises
    obtain ⟨g, _, located⟩ := mapError_eq_error_iff.mp (map_eq_error_iff.mp failed)
    cases g <;> cases located

theorem operands_rename (ρ : Text → Text) (e : Expr) :
    (e.rename ρ).operands = e.operands.map (rename ρ) := by
  cases e with
  | call s name args => exact replaceVarsInAll_eq _ args
  | _ => rfl

theorem forall₂_rename (ρ : Text → Text) (es : List Expr) :
    List.Forall₂ (fun e e' => e' = e.rename ρ) es (es.map (rename ρ)) := by
  rw [List.forall₂_map_right_iff]
  exact List.forall₂_same.mpr fun _ _ => rfl

/-- A node with parts does not fail as a variable without a value does, so renaming leaves its
failure as it is. -/
theorem Raises.renameUnresolved_eq_self (ρ : Text → Text) (compound : n.isTerminal = false)
    (raises : n.Raises ctx f) : f.renameUnresolved ρ = f := by
  apply f.renameUnresolved_eq_self
  rintro s name rfl
  obtain ⟨rfl, _⟩ := raises.of_unresolved
  cases compound

/-- A tree where each name has the value of its new name goes the same way as the renamed tree,
and where they fail, they fail alike up to the name of a variable without a value. -/
theorem rename_sideBySide (ρ : Text → Text) (env : Env) (source : Option Source)
    (trace trace' : Bool) :
    SideBySide ⟨fun name => env (ρ name), source, trace⟩ ⟨env, source, trace'⟩
      (fun e e' => e' = e.rename ρ) Eq (fun f g => g = f.renameUnresolved ρ) where
  operands := by
    rintro e _ rfl
    rw [operands_rename]
    exact forall₂_rename ρ e.operands
  conclude := by
    rintro e _ values _ rfl evaluated _ same
    rw [List.forall₂_eq_eq_eq] at same
    subst same
    cases kind : e.isTerminal with
    | false =>
      have renamed : e.rename ρ = e.withParts (e.children.map (rename ρ)) :=
        replaceVars_compound _ kind
      have alike := conclude_withParts ⟨env, source, trace'⟩ kind (forall₂_rename ρ e.children)
        evaluated rfl
      rw [renamed]
      refine alike.imp_failure ?_
      rintro f _ failed rfl
      exact (Raises.renameUnresolved_eq_self ρ kind ⟨values, evaluated, failed⟩).symm
    | true =>
      cases e with
      | lit s v => exact .ok (.value rfl)
      | var s name =>
        simp only [rename, replaceVars_var, conclude]
        cases env (ρ name) with
        | some v => exact .ok (.value rfl)
        | none => exact .error rfl
      | _ => cases kind
  moved := by
    rintro e _ v _ rfl rfl
    rw [span_rename]

/-- The renamed tree ends as the tree does where each name has the value of its new name. -/
theorem outcome_rename (ρ : Text → Text) (env : Env) (source : Option Source)
    (trace trace' : Bool) (e : Expr) :
    (e.rename ρ).outcome ⟨env, source, trace'⟩ =
      (e.outcome ⟨fun name => env (ρ name), source, trace⟩).mapError
        (Failure.renameUnresolved ρ) := by
  have alike := (rename_sideBySide ρ env source trace trace').outcome (e := e) rfl
  rcases alike.both with ⟨v, _, ended, ended', rfl⟩ | ⟨f, _, failed, failed', rfl⟩
  · rw [ended, ended']
    rfl
  · rw [failed, failed']
    rfl

/-- The one failure that a renaming tells apart comes from a variable that evaluation comes to. -/
theorem outcome_eq_unresolved_iff :
    e.outcome ctx = .error (.error ((EvalError.unresolvedVariable name).within s)) ↔
      Visits ctx e (.var s name) ∧ ctx.env name = none := by
  constructor
  · intro failed
    obtain ⟨n, visits, raises⟩ := outcome_eq_error_iff_raises.mp failed
    obtain ⟨rfl, unbound⟩ := raises.of_unresolved
    exact ⟨visits, unbound⟩
  · rintro ⟨visits, unbound⟩
    exact outcome_of_unbound visits unbound

end Evaluating

/-- Renaming is natural. There is one function that gives each variable its new name, keeps
literals and goes on with the parts of any other node. What it makes of a tree has the new names
in their order, resolves as the tree does with the values of the new names, up to the name that a
refusal speaks of, and evaluates so, whatever the host answers. Evaluation tells the two apart by
one failure alone, which is that of a variable without a value. -/
theorem rename_natural (ρ : Text → Text) (e : Expr) (env : Env) (source : Option Source)
    (settings : Settings) :
    let renamedEnv : Env := fun name => env (ρ name)
    (∀ ren, Descends (m := Id) (fun s name => .var s (ρ name)) ren ↔ ren = rename ρ) ∧
    (e.renameParts ρ).1 = e.rename ρ ∧
    (e.rename ρ).varRefs = e.varRefs.map ρ ∧
    (e.rename ρ).resolve env = (e.resolve renamedEnv).mapError (EvalError.renameUnknown ρ) ∧
    (evaluate (e.rename ρ) env source settings).outcome =
      (evaluate e renamedEnv source settings).outcome.mapError (Failure.renameUnresolved ρ) ∧
    ∀ s name, (evaluate e renamedEnv source settings).outcome =
        .error (.error (.spanned s (.unresolvedVariable name))) ↔
      Visits ⟨renamedEnv, source, settings.trace⟩ e (.var s name) ∧ env (ρ name) = none := by
  intro renamedEnv
  refine ⟨?_, renameParts_fst ρ e, varRefs_rename ρ e, resolve_rename ρ env e, ?_, ?_⟩
  · intro ren
    constructor
    · intro descends
      exact descends.unique (rename_descends ρ)
    · rintro rfl
      exact rename_descends ρ
  · exact outcome_rename ρ env source settings.trace settings.trace e
  · intro s name
    exact outcome_eq_unresolved_iff

/-- Two variables get one name, and the first of them is missed under that name. -/
example :
    let e : Expr := .bin ⟨0, 5, 0⟩ .plus (.var ⟨0, 1, 0⟩ "a") (.var ⟨4, 5, 0⟩ "b")
    let missed : Text → Failure := fun name =>
      .error (.spanned ⟨0, 1, 0⟩ (.unresolvedVariable name))
    (e.rename fun _ => "c").varRefs = ["c", "c"] ∧
      (evaluate e .empty none {}).outcome = .error (missed "a") ∧
      (evaluate (e.rename fun _ => "c") .empty none {}).outcome = .error (missed "c") := by
  decide +kernel

end Expr

end TextExpr
