import TextExpr.Proofs.Outcome
import TextExpr.Proofs.Failure
import TextExpr.Proofs.Registration

/-!
# The order of registration cannot be observed

Two registries in which the same names have the same functions may have come about in any way,
and keep their functions in different orders. They list the same names, are shown alike, and as a
source of functions they are the same, so no call and no evaluation tells them apart. What a
function returns becomes a value, nothing at all included; only a name without a function is
unknown.
-/
namespace TextExpr

namespace Registry

section Observers

variable {φ : Type} {r r' : Registry φ}

theorem mem_iff_of_lookup (same : ∀ name, r.lookup name = r'.lookup name) (name : Text) :
    name ∈ r ↔ name ∈ r' := by
  rw [← isSome_lookup_iff, ← isSome_lookup_iff, same name]

/-- Names that stand strictly in order are settled by which names they are. -/
theorem Sound.names_eq (sound : r.Sound) (sound' : r'.Sound)
    (same : ∀ name, r.lookup name = r'.lookup name) : r.names = r'.names := by
  have listed : (r.entries.map Prod.fst).Perm (r'.entries.map Prod.fst) := by
    rw [List.perm_ext_iff_of_nodup sound.distinct sound'.distinct]
    exact mem_iff_of_lookup same
  have sorted : r.names.Perm r'.names :=
    (List.mergeSort_perm _ _).trans (listed.trans (List.mergeSort_perm _ _).symm)
  refine sorted.eq_of_pairwise ?_ sound.ascending sound'.ascending
  intro a b _ _ before after
  have circular := Text.precedes_trans before after
  rw [Text.precedes_irrefl] at circular
  cases circular

theorem Sound.size_eq (sound : r.Sound) (sound' : r'.Sound)
    (same : ∀ name, r.lookup name = r'.lookup name) : r.size = r'.size := by
  rw [sound.consistent.counted, sound'.consistent.counted, sound.names_eq sound' same]

theorem has_eq_of_lookup (same : ∀ name, r.lookup name = r'.lookup name) (name : Text) :
    r.has name = r'.has name := by
  simp only [has, mem_iff_of_lookup same name]

end Observers

variable {r r' : Registry (List Value → Run HostValue)} {name : Text} {args : List Value}

theorem Sound.source_eq (sound : r.Sound) (sound' : r'.Sound)
    (same : ∀ name, r.lookup name = r'.lookup name) : r.source = r'.source := by
  simp only [source, shown, sound.names_eq sound' same, same]

/-- What a call comes to: the built-in functions are first, then those of the registry, whose
results become values. -/
def answer (r : Registry (List Value → Run HostValue)) (name : Text) (args : List Value) :
    Except Failure Value :=
  if name = Builtin.roundName then Builtin.round args
  else if name = Builtin.replaceName then Builtin.replace args
  else match r.lookup name with
    | some f => (f args).outcome >>= fun v => v.toValue.mapError .fault
    | none => .error (.error (.unknownFunction name))

theorem outcome_run (r : Registry (List Value → Run HostValue)) (name : Text)
    (args : List Value) : (r.source.run name args).outcome =
      match r.lookup name with
      | some f => (f args).outcome >>= fun v => (v.toValue.mapError .fault).map some
      | none => .ok none := by
  simp only [source]
  cases r.lookup name with
  | none => rfl
  | some f =>
    simp only [Run.outcome_bind, Run.outcome_ofFaulty, Run.outcome_pure, map_eq_bind]

/-- A source says that it does not define a name exactly if no function was registered for it. -/
theorem outcome_run_eq_none_iff :
    (r.source.run name args).outcome = .ok none ↔ r.lookup name = none := by
  rw [outcome_run]
  cases r.lookup name with
  | none => simp
  | some f =>
    simp only [bind_eq_ok_iff, map_eq_ok_iff, reduceCtorEq, and_false, exists_false]

theorem outcome_callFunction (r : Registry (List Value → Run HostValue)) (name : Text)
    (args : List Value) :
    (callFunction name args (some r.source)).outcome = r.answer name args := by
  unfold answer
  split
  next isRound => rw [isRound, callFunction_round]
  next notRound =>
    split
    next isReplace => rw [isReplace, callFunction_replace]
    next notReplace =>
      rw [callFunction_host notRound notReplace]
      cases found : r.lookup name with
      | none =>
        simp only [callHost, Run.outcome_bind, outcome_run, found]
        rfl
      | some f =>
        simp only [callHost, Run.outcome_bind, outcome_run, found, bind_assoc, bind_map]
        refine congrArg _ (funext fun v => ?_)
        cases v.toValue <;> rfl

theorem Sound.answer_of_found (sound : r.Sound) {f : List Value → Run HostValue}
    (found : r.lookup name = some f) :
    r.answer name args = (f args).outcome >>= fun v => v.toValue.mapError .fault := by
  have inside : name ∈ r := by
    rw [← isSome_lookup_iff, found]
    rfl
  have host := sound.host name inside
  simp only [Builtin.names, List.mem_cons, List.not_mem_nil, or_false, not_or] at host
  rw [answer, if_neg host.2, if_neg host.1, found]

/-- Two registries, come about in any two ways, with the same functions for the same names: every
observer answers the same, and so do calls and evaluations, which come to what the functions
return. A function that returns nothing gives the text of null. -/
theorem registries_same (calls calls' : List (Call (List Value → Run HostValue)))
    (same : ∀ name, (after calls).lookup name = (after calls').lookup name) :
    ((after calls).names = (after calls').names ∧
      (after calls).toList = (after calls').toList ∧
      (after calls).size = (after calls').size ∧
      (after calls).shown = (after calls').shown ∧
      ∀ name, (after calls).has name = (after calls').has name ∧
        (name ∈ after calls ↔ name ∈ after calls')) ∧
    (∀ name args,
      (after calls).source.run name args = (after calls').source.run name args ∧
      (((after calls).source.run name args).outcome = .ok none ↔
        (after calls).lookup name = none)) ∧
    (∀ name args,
      callFunction name args (some (after calls).source) =
        callFunction name args (some (after calls').source) ∧
      (callFunction name args (some (after calls).source)).outcome =
        (after calls).answer name args) ∧
    (∀ name args f, (after calls).lookup name = some f → (f args).outcome = .ok .null →
      (after calls).answer name args = .ok (.ofText "null")) ∧
    (∀ e env settings, evaluate e env (some (after calls).source) settings =
      evaluate e env (some (after calls').source) settings) ∧
    ∀ s name args env settings values,
      (Expr.call s name args).OperandValues ⟨env, some (after calls).source, settings.trace⟩
        values →
      (evaluate (.call s name args) env (some (after calls).source) settings).outcome =
        (((after calls).answer name values).mapError (.locate s)).map (·.withSpan s) := by
  have sound := sound_after calls
  have sound' := sound_after calls'
  have names := sound.names_eq sound' same
  have source := sound.source_eq sound' same
  refine ⟨⟨names, names, sound.size_eq sound' same, congrArg Source.shown source, ?_⟩, ?_, ?_, ?_,
    ?_, ?_⟩
  · intro name
    exact ⟨has_eq_of_lookup same name, mem_iff_of_lookup same name⟩
  · intro name args
    exact ⟨by rw [source], outcome_run_eq_none_iff⟩
  · intro name args
    exact ⟨by rw [source], outcome_callFunction _ name args⟩
  · intro name args f found nothing
    rw [sound.answer_of_found found, nothing]
    rfl
  · intro e env settings
    rw [source]
  · intro s name args env settings values evaluated
    rw [← outcome_callFunction]
    exact Expr.outcome_call evaluated

/-- The second history registers in another order, meets a built-in name, and is refused halfway
through a call with many functions. -/
theorem registries_same_reordered :
    let nothing : List Value → Run HostValue := fun _ => pure .null
    let count : List Value → Run HostValue := fun args => pure (.int args.length)
    let calls : List (Call _) := [.register "b" count, .register "a" nothing]
    let calls' : List (Call _) := [.register "a" nothing, .register "round" count,
      .registerAll ⟨[("b", count), ("a", count), ("c", count)], by decide⟩]
    let e : Expr := .bin ⟨0, 10, 0⟩ .plus (.call ⟨0, 3, 0⟩ "a" [])
      (.call ⟨6, 10, 0⟩ "b" [.lit ⟨8, 9, 0⟩ ⟨"x", none⟩])
    (∀ name, (after calls).lookup name = (after calls').lookup name) ∧
      (after calls).entries.map Prod.fst = ["b", "a"] ∧
      (after calls').entries.map Prod.fst = ["a", "b"] ∧
      (after calls).names = (after calls').names ∧
      (evaluate e .empty (some (after calls).source) {}).outcome =
        .ok ⟨"null1", some ⟨0, 10, 0⟩⟩ ∧
      (evaluate e .empty (some (after calls').source) {}).outcome =
        .ok ⟨"null1", some ⟨0, 10, 0⟩⟩ := by
  intro nothing count calls calls' e
  have first : after calls = ⟨[("b", count), ("a", nothing)]⟩ := rfl
  have second : after calls' = ⟨[("a", nothing), ("b", count)]⟩ := rfl
  have same : ∀ name, (after calls).lookup name = (after calls').lookup name := by
    intro name
    rw [first, second]
    by_cases isA : name = "a"
    · subst isA
      rfl
    · have notA : (name == "a") = false := beq_false_of_ne isA
      simp only [lookup, List.lookup_cons, notA]
  have ended : (evaluate e .empty (some (after calls).source) {}).outcome =
      .ok ⟨"null1", some ⟨0, 10, 0⟩⟩ := by decide +kernel
  obtain ⟨⟨names, _⟩, _, _, _, evaluated, _⟩ := registries_same calls calls' same
  refine ⟨same, rfl, rfl, names, ended, ?_⟩
  rw [← evaluated]
  exact ended

end Registry

end TextExpr
