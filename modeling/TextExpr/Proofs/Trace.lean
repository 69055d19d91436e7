import TextExpr.Proofs.Place
import TextExpr.Proofs.Unresolved

/-!
# What a trace says

A traced evaluation without a host writes a line for each place whose node it evaluates to a value,
in the order of the places. So the lines of a part stand together as the part would write them
alone, and a node that fails has no line, and no node around it has one.
-/
namespace TextExpr

namespace Run

variable {α β : Type}

@[simp] theorem log_pure (a : α) : (pure a : Run α).log = [] := rfl

@[simp] theorem log_fail (f : Failure) : (fail f : Run α).log = [] := rfl

theorem ofExcept_eq (x : Except EvalError α) :
    ofExcept x = ⟨[], x.mapError .error⟩ := by
  cases x <;> rfl

@[simp] theorem log_ofExcept (x : Except EvalError α) : (ofExcept x).log = [] := by
  cases x <;> rfl

@[simp] theorem log_mapFailure (f : Failure → Failure) (r : Run α) :
    (r.mapFailure f).log = r.log := rfl

theorem log_bind (r : Run α) (f : α → Run β) :
    (r >>= f).log = r.log ++ match r.outcome with
      | .ok a => (f a).log
      | .error _ => [] := by
  obtain ⟨log, outcome⟩ := r
  cases outcome with
  | ok a => rfl
  | error e => exact (List.append_nil log).symm

@[simp] theorem pure_bind (a : α) (f : α → Run β) : pure a >>= f = f a := rfl

theorem bind_assoc {γ : Type} (r : Run α) (f : α → Run β) (g : β → Run γ) :
    r >>= f >>= g = r >>= fun a => f a >>= g := by
  obtain ⟨log, outcome⟩ := r
  cases outcome with
  | error e => rfl
  | ok a =>
    simp only [Bind.bind, Run.bind]
    cases (f a).outcome with
    | ok b => simp only [List.append_assoc]
    | error e => rfl

end Run

namespace Expr

section Lines

/-! Evaluations end somehow, each node evaluated alone. -/

variable (ends : Expr → Except Failure Value)

/-- What is written of a node once it has a value. -/
def ownLine? (e : Expr) : Option Entry := (ends e).toOption.map fun v => .evaluated e v.text

/-- The line for a place, if evaluation comes to the node there and gives it a value. -/
def line? (e : Expr) (p : Place) : Option Entry := (reached? ends p e).bind (ownLine? ends)

/-- The lines for all places. -/
def lines (e : Expr) : List Entry := e.places.filterMap (line? ends e)

/-- The lines of nodes that are evaluated one after the other as long as they have values. -/
def linesOfAll : List Expr → List Entry
  | [] => []
  | e :: rest => lines ends e ++ if succeeds ends e then linesOfAll rest else []

theorem line?_append {p q : Place} {e n : Expr} (comes : reached? ends p e = some n) :
    line? ends e (p ++ q) = line? ends n q := by
  rw [line?, reached?_append, comes]
  rfl

theorem lines_of_part {e c : Expr} {i : Nat} (part : e.children[i]? = some c) :
    (c.places.map (i :: ·)).filterMap (line? ends e) =
      if goesInto ends e i then lines ends c else [] := by
  rw [List.filterMap_map]
  split
  next goes =>
    have comes : reached? ends [i] e = some c := by
      simp only [reached?, goes, part]
      rfl
    exact congrArg (fun f => c.places.filterMap f) (funext fun p => line?_append ends comes)
  next stays =>
    refine List.filterMap_eq_nil_iff.mpr fun p _ => ?_
    simp [line?, reached?, stays]

/-- Of parts that are all operands the lines are written until one has no value. -/
theorem lines_of_operands {e : Expr} (before rest : List Expr)
    (takesAll : ∀ i, takes ends e i = true) (split : e.children = before ++ rest)
    (operands : e.operands = e.children) :
    (placesOfParts before.length rest).filterMap (line? ends e) =
      if before.all (succeeds ends) then linesOfAll ends rest else [] := by
  induction rest generalizing before with
  | nil => simp [placesOfParts, linesOfAll]
  | cons c rest ih =>
    have part : e.children[before.length]? = some c := by simp [split]
    have goes : goesInto ends e before.length = before.all (succeeds ends) := by
      simp [goesInto, takesAll, operands, split]
    have tail := ih (before ++ [c]) (by simp [split])
    rw [List.length_append, List.length_singleton] at tail
    rw [placesOfParts, List.filterMap_append, lines_of_part ends part, tail, goes, linesOfAll]
    cases earlier : before.all (succeeds ends) <;> simp [earlier]

theorem lines_eq (e : Expr) :
    lines ends e =
      (placesOfParts 0 e.children).filterMap (line? ends e) ++ (ownLine? ends e).toList := by
  rw [lines, places_eq, List.filterMap_append]
  cases own : ownLine? ends e <;> simp [line?, reached?, own]

theorem lines_of_strict {e : Expr} (strict : e.isConditional = false) :
    lines ends e = linesOfAll ends e.children ++ (ownLine? ends e).toList := by
  have takesAll : ∀ i, takes ends e i = true := by
    intro i
    cases e with
    | cond => cases strict
    | _ => rfl
  have operands : e.operands = e.children := by
    cases e with
    | cond => cases strict
    | _ => rfl
  rw [lines_eq]
  exact congrArg (· ++ _) (lines_of_operands ends [] _ takesAll rfl operands)

theorem lines_of_cond (s : Span) (test yes no : Expr) :
    lines ends (.cond s test yes no) =
      lines ends test ++ (match truth? ends test with
        | some true => lines ends yes
        | some false => lines ends no
        | none => []) ++ (ownLine? ends (.cond s test yes no)).toList := by
  have succeeded : ∀ b, truth? ends test = some b → succeeds ends test = true := by
    intro b truth
    obtain ⟨v, ended, _⟩ := Option.bind_eq_some_iff.mp truth
    simp [succeeds, ended]
  have part : ∀ i c, (Expr.cond s test yes no).children[i]? = some c → _ := fun i c =>
    lines_of_part ends (i := i) (c := c)
  rw [lines_eq, children, placesOfParts, placesOfParts, placesOfParts, placesOfParts,
    List.filterMap_append, List.filterMap_append, List.filterMap_append,
    part 0 test rfl, part 1 yes rfl, part 2 no rfl]
  cases truth : truth? ends test with
  | none => simp [goesInto, takes, truth]
  | some b =>
    have ended := succeeded b truth
    cases b <;> simp [goesInto, takes, operands, truth, ended]

/-- Each line tells of a node that is reached and of the value it has by itself. -/
theorem exists_of_mem_lines {e : Expr} {entry : Entry} (member : entry ∈ lines ends e) :
    ∃ p n v, reached? ends p e = some n ∧ ends n = .ok v ∧ entry = .evaluated n v.text := by
  obtain ⟨p, _, written⟩ := List.mem_filterMap.mp member
  obtain ⟨n, comes, written⟩ := Option.bind_eq_some_iff.mp written
  obtain ⟨v, ended, same⟩ := Option.map_eq_some_iff.mp written
  refine ⟨p, n, v, comes, ?_, same.symm⟩
  cases outcome : ends n with
  | error f => simp [outcome, Except.toOption] at ended
  | ok w => simpa [outcome, Except.toOption] using ended

/-- The lines of a node that is reached are its own lines, one after the other. -/
theorem exists_lines_of_reached {p : Place} {e n : Expr} (comes : reached? ends p e = some n) :
    ∃ before after, e.places = before ++ n.places.map (p ++ ·) ++ after ∧
      lines ends e =
        before.filterMap (line? ends e) ++ lines ends n ++ after.filterMap (line? ends e) := by
  obtain ⟨before, after, split⟩ := exists_places_of_reached ends comes
  have inner : (n.places.map (p ++ ·)).filterMap (line? ends e) = lines ends n := by
    rw [List.filterMap_map]
    exact congrArg (fun f => n.places.filterMap f) (funext fun q => line?_append ends comes)
  exact ⟨before, after, split, by rw [lines, split, List.filterMap_append,
    List.filterMap_append, inner]⟩

theorem getLast?_lines {e : Expr} {v : Value} (ended : ends e = .ok v) :
    (lines ends e).getLast? = some (.evaluated e v.text) := by
  simp [lines_eq, ownLine?, ended, Except.toOption]

end Lines

section Log

variable {ctx : Context} {e : Expr}

theorem log_finish (traced : ctx.trace = true) (node : Expr) (v : Value) :
    (finish ctx node v).log = [.evaluated node v.text] := by
  simp [finish, traced, Run.log_bind, Run.write]

/-- A node that a run gives a value writes its own line after those of the run. -/
theorem log_of_finish (traced : ctx.trace = true) {r : Run Value}
    (evaluated : e.eval ctx = r >>= finish ctx e) :
    (e.eval ctx).log = r.log ++ (ownLine? (outcome ctx) e).toList := by
  have ended : e.outcome ctx = r.outcome.map (·.withSpan e.span) := by
    rw [outcome, evaluated, Run.outcome_bind, map_eq_bind]
    exact congrArg _ (funext fun v => outcome_finish ctx e v)
  rw [evaluated, Run.log_bind, ownLine?, ended]
  cases r.outcome with
  | ok v => simp [log_finish traced, Except.map, Except.toOption, Value.withSpan]
  | error f => rfl

theorem log_evalAll {es : List Expr}
    (each : ∀ e ∈ es, (e.eval ctx).log = lines (outcome ctx) e) :
    (evalAll ctx es).log = linesOfAll (outcome ctx) es := by
  induction es with
  | nil => rfl
  | cons e rest ih =>
    have tail := ih fun e later => each e (List.mem_cons_of_mem _ later)
    rw [evalAll, Run.log_bind, linesOfAll, each e List.mem_cons_self]
    congr 1
    have ended : (e.eval ctx).outcome = e.outcome ctx := rfl
    rw [succeeds, ← ended]
    cases (e.eval ctx).outcome with
    | error f => rfl
    | ok v =>
      simp only [Run.log_bind, tail]
      cases (evalAll ctx rest).outcome <;> simp [Except.toOption]

theorem log_callFunction (alone : ctx.source = none) (name : Text) (values : List Value) :
    (callFunction name values ctx.source).log = [] := by
  rw [alone, callFunction]
  split <;> rfl

/-- A node of which all parts are operands, and which itself writes nothing before it has a
value. -/
theorem log_of_strict (act : List Value → Run Value) (traced : ctx.trace = true)
    (strict : e.isConditional = false)
    (each : ∀ c ∈ e.children, (c.eval ctx).log = lines (outcome ctx) c)
    (silent : ∀ values, (act values).log = [])
    (evaluated : e.eval ctx = evalAll ctx e.children >>= act >>= finish ctx e) :
    (e.eval ctx).log = lines (outcome ctx) e := by
  rw [log_of_finish traced evaluated, lines_of_strict _ strict, Run.log_bind, log_evalAll each]
  cases (evalAll ctx e.children).outcome with
  | ok values => simp [silent values]
  | error f => simp

/-- A node acts on the one value of its operand. No other number of values arises. -/
def actOnOne (act : Value → Except Failure Value) : List Value → Run Value
  | [operand] => ⟨[], act operand⟩
  | _ => Run.fail (.fault .missingExpression)

/-- A node acts on the two values of its operands. -/
def actOnTwo (act : Value → Value → Except Failure Value) : List Value → Run Value
  | [left, right] => ⟨[], act left right⟩
  | _ => Run.fail (.fault .missingExpression)

theorem log_actOnOne (act : Value → Except Failure Value) (values : List Value) :
    (actOnOne act values).log = [] := by
  unfold actOnOne
  split <;> rfl

theorem log_actOnTwo (act : Value → Value → Except Failure Value) (values : List Value) :
    (actOnTwo act values).log = [] := by
  unfold actOnTwo
  split <;> rfl

/-- The log of a traced evaluation without a host. -/
theorem log_eq_lines (traced : ctx.trace = true) (alone : ctx.source = none) (e : Expr) :
    (e.eval ctx).log = lines (outcome ctx) e := by
  induction e using induction_children with
  | step e ih =>
    cases e with
    | lit s v => exact log_of_strict (fun _ => pure v) traced rfl ih (fun _ => rfl) rfl
    | var s name =>
      cases found : ctx.env name with
      | some v =>
        refine log_of_strict (fun _ => pure v) traced rfl ih (fun _ => rfl) ?_
        simp only [eval, found]
        rfl
      | none =>
        -- no value, and so no line of its own
        have failed : (Expr.var s name).outcome ctx =
            .error (.error ((EvalError.unresolvedVariable name).within s)) := by
          simp [outcome, eval, found]
        rw [lines_of_strict _ rfl, ownLine?, failed]
        simp [eval, found, children, linesOfAll, Except.toOption]
    | bin s op l r =>
      refine log_of_strict (actOnTwo (applyBinary op)) traced rfl ih (log_actOnTwo _) ?_
      simp only [eval, evalAll, children, Run.bind_assoc, Run.pure_bind, actOnTwo]
    | un s op e =>
      refine log_of_strict (actOnOne (applyUnary op)) traced rfl ih (log_actOnOne _) ?_
      simp only [eval, evalAll, children, Run.bind_assoc, Run.pure_bind, actOnOne]
    | cond s test yes no =>
      -- a branch is not among the operands: the log goes on with the one that the test takes
      have parts : ∀ c ∈ [test, yes, no], (c.eval ctx).log = lines (outcome ctx) c := ih
      rw [log_of_finish traced (r := do
          let b ← Run.ofExcept (← eval ctx test).asBool
          if b then eval ctx yes else eval ctx no), lines_of_cond]
      · congr 1
        rw [Run.log_bind, parts test (by simp)]
        congr 1
        have ended : (test.eval ctx).outcome = test.outcome ctx := rfl
        rw [truth?, ← ended]
        cases (test.eval ctx).outcome with
        | error f => rfl
        | ok v =>
          cases truth : v.asBool with
          | error r => simp [truth, Except.toOption, Except.mapError, Run.log_bind]
          | ok b =>
            cases b <;> simp [truth, Except.toOption, Except.mapError, Run.log_bind, parts]
      · simp only [eval, Run.bind_assoc]
        refine congrArg _ (funext fun v => congrArg _ (funext fun b => ?_))
        cases b <;> rfl
    | index s c k =>
      refine log_of_strict (actOnTwo fun container key =>
        (indexValue s container key).mapError .error) traced rfl ih (log_actOnTwo _) ?_
      simp only [eval, evalAll, children, Run.bind_assoc, Run.pure_bind, actOnTwo,
        Run.ofExcept_eq]
    | call s name args =>
      refine log_of_strict (fun values =>
        (callFunction name values ctx.source).mapFailure (.locate s)) traced rfl ih
        (fun values => ?_) ?_
      · rw [Run.log_mapFailure, log_callFunction alone]
      · simp only [eval, children, Run.bind_assoc]

end Log

section Reached

variable {ctx : Context} {e n c : Expr} {p q : Place} {f : Failure} {v : Value} {i : Nat}

theorem truth?_eq_some_iff {test : Expr} {b : Bool} :
    truth? (outcome ctx) test = some b ↔ ∃ v, test.outcome ctx = .ok v ∧ v.asBool = .ok b := by
  rw [truth?, Option.bind_eq_some_iff]
  cases test.outcome ctx with
  | error f => simp [Except.toOption]
  | ok v => cases truth : v.asBool <;> simp [Except.toOption, truth]

theorem enters_of_operand (operand : e.operands[i]? = some c)
    (succeed : (e.operands.take i).all (succeeds (outcome ctx)) = true) : Enters ctx e c := by
  obtain ⟨inside, rfl⟩ := List.getElem?_eq_some_iff.mp operand
  have split : e.operands = e.operands.take i ++ e.operands[i] :: e.operands.drop (i + 1) := by
    rw [List.getElem_cons_drop, List.take_append_drop]
  refine .operand split fun b before => ?_
  have ended := List.all_eq_true.mp succeed b before
  rw [succeeds] at ended
  cases outcome : b.outcome ctx with
  | ok v => exact ⟨v, rfl⟩
  | error f => simp [outcome, Except.toOption] at ended

theorem enters_branch {s : Span} {test yes no : Expr} {b : Bool}
    (truth : truth? (outcome ctx) test = some b) :
    Enters ctx (.cond s test yes no) (if b then yes else no) := by
  obtain ⟨v, ended, truth⟩ := truth?_eq_some_iff.mp truth
  have evaluated : (Expr.cond s test yes no).OperandValues ctx [v] := .cons ended .nil
  refine .branch evaluated ?_
  rw [conclude, truth]
  rfl

theorem enters_of_goesInto (goes : goesInto (outcome ctx) e i = true)
    (part : e.children[i]? = some c) : Enters ctx e c := by
  obtain ⟨takes, succeed⟩ := Bool.and_eq_true_iff.mp goes
  cases e with
  | cond s test yes no =>
    match i, part with
    | 0, part => exact enters_of_operand (i := 0) part succeed
    | 1, part =>
      cases part
      exact enters_branch (of_decide_eq_true takes)
    | 2, part =>
      cases part
      exact enters_branch (of_decide_eq_true takes)
  | _ => exact enters_of_operand part succeed

theorem visits_of_reached (comes : reached? (outcome ctx) p e = some n) : Visits ctx e n := by
  induction p generalizing e with
  | nil =>
    cases comes
    exact .refl
  | cons i p ih =>
    obtain ⟨c, goes, part, comes⟩ := exists_part_of_reached _ comes
    exact (ih comes).head (enters_of_goesInto goes part)

/-- A node that is reached and fails makes the whole tree fail. -/
theorem outcome_of_reached (comes : reached? (outcome ctx) p e = some n)
    (failed : n.outcome ctx = .error f) : e.outcome ctx = .error f := by
  obtain ⟨m, visits, raises⟩ := outcome_eq_error_iff_raises.mp failed
  exact outcome_eq_error_iff_raises.mpr ⟨m, (visits_of_reached comes).trans visits, raises⟩

/-- Neither a node that fails nor a node around it has a line. -/
theorem line?_of_failed (comes : reached? (outcome ctx) p e = some n)
    (failed : n.outcome ctx = .error f) (around : q <+: p) : line? (outcome ctx) e q = none := by
  obtain ⟨rest, rfl⟩ := around
  rw [reached?_append] at comes
  obtain ⟨m, outer, inner⟩ := Option.bind_eq_some_iff.mp comes
  simp [line?, outer, ownLine?, outcome_of_reached inner failed, Except.toOption]

/-- With a value, evaluation has gone into each part that is not left out. -/
theorem goesInto_of_takes (ended : e.outcome ctx = .ok v)
    (takes : takes (outcome ctx) e i = true) (part : e.children[i]? = some c) :
    goesInto (outcome ctx) e i = true ∧ ∃ w, c.outcome ctx = .ok w := by
  have goes : goesInto (outcome ctx) e i = true := by
    obtain ⟨values, _, evaluated, _, _⟩ := outcome_eq_ok_iff.mp ended
    refine Bool.and_eq_true_iff.mpr ⟨takes, List.all_eq_true.mpr fun b before => ?_⟩
    obtain ⟨w, _, ended⟩ := exists_of_mem_left evaluated (List.mem_of_mem_take before)
    simp [succeeds, ended, Except.toOption]
  refine ⟨goes, ?_⟩
  cases ended' : c.outcome ctx with
  | ok w => exact ⟨w, rfl⟩
  | error f =>
    have failed := outcome_eq_error_iff.mpr (Or.inl ⟨c, enters_of_goesInto goes part, ended'⟩)
    cases ended.symm.trans failed

/-- With a value, evaluation has given a value to each node outside the branches left out. -/
theorem isSome_line?_of_ended (ended : e.outcome ctx = .ok v) (p : Place) :
    (line? (outcome ctx) e p).isSome = outsideLeftOut (outcome ctx) p e := by
  induction p generalizing e v with
  | nil => simp [line?, reached?, ownLine?, outsideLeftOut, ended, Except.toOption]
  | cons i p ih =>
    rw [outsideLeftOut]
    cases part : e.children[i]? with
    | none => simp [line?, reached?, part]
    | some c =>
      cases taken : takes (outcome ctx) e i with
      | false => simp [line?, reached?, goesInto, taken]
      | true =>
        obtain ⟨goes, w, ended'⟩ := goesInto_of_takes ended taken part
        have inner := ih ended'
        rw [line?] at inner
        simp [line?, reached?, goes, part, inner]

theorem length_lines (ended : e.outcome ctx = .ok v) :
    (lines (outcome ctx) e).length = e.places.countP (outsideLeftOut (outcome ctx) · e) := by
  rw [lines, List.length_filterMap_eq_countP]
  exact congrArg (e.places.countP ·) (funext fun p => isSome_line?_of_ended ended p)

end Reached

/-- A trace changes nothing but the log, where each place that is reached and has a value has one
line, in the order of the places. The lines for the places in a part stand together as its own
trace. With a value the root comes last, and every node outside the branches left out has a line;
a node that fails and the nodes around it have none. -/
theorem evaluate_traced (e : Expr) (env : Env) :
    let ends : Expr → Except Failure Value := fun n => (evaluate n env none ⟨false⟩).outcome
    let trace : Expr → List Entry := fun n => (evaluate n env none ⟨true⟩).log
    (evaluate e env none ⟨true⟩).outcome = ends e ∧
    (trace e = e.places.filterMap (line? ends e) ∧ e.places.Nodup ∧
      ∀ p n, reached? ends p e = some n → p ∈ e.places) ∧
    (∀ entry ∈ trace e, ∃ p n v, reached? ends p e = some n ∧ ends n = .ok v ∧
      entry.level = .debug ∧ entry.channel = .evaluation ∧
      entry.message = n.render ++ Text.ofString " @ " ++ n.span.text ++ Text.ofString " => " ++
        v.text.shown) ∧
    (∀ p n, reached? ends p e = some n → ∃ before after,
      e.places = before ++ n.places.map (p ++ ·) ++ after ∧
      trace e = before.filterMap (line? ends e) ++ trace n ++ after.filterMap (line? ends e)) ∧
    (∀ v, ends e = .ok v → (trace e).getLast? = some (.evaluated e v.text) ∧
      (trace e).length = e.places.countP (outsideLeftOut ends · e)) ∧
    (∀ p n f, reached? ends p e = some n → ends n = .error f →
      ∀ q, q <+: p → line? ends e q = none) := by
  intro ends trace
  have same : outcome ⟨env, none, true⟩ = ends :=
    funext fun n => outcome_eq_of_bindings rfl fun _ _ _ => rfl
  have traced : ∀ n, trace n = lines ends n := by
    intro n
    rw [← same]
    exact log_eq_lines rfl rfl n
  refine ⟨congrFun same e, ⟨traced e, places_nodup e, fun p n => mem_places_of_reached ends⟩,
    ?_, ?_, ?_, fun p n f comes failed q => line?_of_failed comes failed⟩
  · intro entry member
    rw [traced] at member
    obtain ⟨p, n, v, comes, ended, rfl⟩ := exists_of_mem_lines ends member
    exact ⟨p, n, v, comes, ended, rfl, rfl, rfl⟩
  · intro p n comes
    rw [traced, traced]
    exact exists_lines_of_reached ends comes
  · intro v ended
    rw [traced]
    exact ⟨getLast?_lines ends ended, length_lines ended⟩

/-- A conditional that has a value stands before an operand that has none: its three lines are
those of its own trace, and the difference has no line. -/
theorem evaluate_traced_difference :
    let n : Expr := .cond ⟨1, 23, 0⟩ (.var ⟨4, 5, 0⟩ "a") (.lit ⟨11, 14, 0⟩ ⟨"2", none⟩)
      (.var ⟨20, 21, 0⟩ "b")
    let e : Expr := .bin ⟨0, 30, 0⟩ .minus n (.un ⟨26, 30, 0⟩ .not (.lit ⟨27, 30, 0⟩ ⟨"x", none⟩))
    let env : Env := .ofList [("a", ⟨"true", none⟩)]
    let ends : Expr → Except Failure Value := fun n => (evaluate n env none ⟨false⟩).outcome
    let trace : Expr → List Entry := fun n => (evaluate n env none ⟨true⟩).log
    (∃ f, ends e = .error f) ∧ (trace e).length = 4 ∧ line? ends e [] = none ∧
      (∃ before after, e.places = before ++ n.places.map ([0] ++ ·) ++ after ∧
        trace e = before.filterMap (line? ends e) ++ trace n ++ after.filterMap (line? ends e)) ∧
      (∃ s, reached? ends [0, 1] e = some s ∧ [0, 1] ∈ e.places) ∧
      (trace n).getLast? = some (.evaluated n "2") ∧
      (trace n).length = n.places.countP (outsideLeftOut ends · n) ∧ (trace n).length = 3 := by
  intro n e env ends trace
  have reachedPart : reached? ends [0] e = some n := rfl
  have reachedNot : ∃ m f, reached? ends [1] e = some m ∧ ends m = .error f := ⟨_, _, rfl, rfl⟩
  have reachedBranch : ∃ s, reached? ends [0, 1] e = some s := ⟨_, rfl⟩
  have ended : ∃ v, ends n = .ok v ∧ v.text = "2" := ⟨_, rfl, rfl⟩
  obtain ⟨_, ⟨_, _, listed⟩, _, blocks, _, failures⟩ := evaluate_traced e env
  obtain ⟨_, _, _, _, values, _⟩ := evaluate_traced n env
  obtain ⟨v, ended, text⟩ := ended
  obtain ⟨last, count⟩ := values v ended
  obtain ⟨m, f, comes, failed⟩ := reachedNot
  obtain ⟨s, there⟩ := reachedBranch
  refine ⟨⟨_, rfl⟩, by decide +kernel, failures [1] m f comes failed [] (List.nil_prefix),
    blocks [0] n reachedPart, ⟨s, there, listed [0, 1] s there⟩, text ▸ last, count, ?_⟩
  decide +kernel

end Expr

end TextExpr
