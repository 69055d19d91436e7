import TextExpr.Proofs.Failure
import TextExpr.Proofs.Outcome
import TextExpr.Proofs.Spelling

/-!
# Well-typed trees

Values are texts, and an operator reads again what another operator wrote. A tree of numbers and
truth values in which each operator is given the kinds it takes ends in a value of its own kind:
no reading on the way fails.
-/
namespace TextExpr

inductive Kind where
  | number
  | truth

namespace Value

variable {v w : Value} {k : Kind}

def HasKind (v : Value) : Kind → Prop
  | .number => ∃ x, v.asDouble = .ok x
  | .truth => v.text = Text.ofString "true" ∨ v.text = Text.ofString "false"

theorem HasKind.of_text (same : v.text = w.text) (typed : v.HasKind k) : w.HasKind k := by
  cases k with
  | number =>
    obtain ⟨x, reads⟩ := typed
    exact ⟨x, readsText_asDouble.of_text same reads⟩
  | truth =>
    unfold HasKind at typed ⊢
    rwa [← same]

/-- The text of a number reads as the number. -/
theorem asDouble_ofDouble (x : Double) (s : Span) :
    ((ofDouble x).withSpan s).asDouble = .ok x :=
  asDouble_eq_ok_iff.mpr (Double.read?_plainText x)

theorem hasKind_ofDouble (x : Double) : (ofDouble x).HasKind .number :=
  ⟨x, asDouble_eq_ok_iff.mpr (Double.read?_plainText x)⟩

theorem hasKind_fixedText (x : Double) (places : Nat) :
    (ofText (x.fixedText places)).HasKind .number := by
  obtain ⟨y, reads⟩ := Option.isSome_iff_exists.mp (Double.isSome_read?_fixedText x places)
  exact ⟨y, asDouble_eq_ok_iff.mpr reads⟩

theorem hasKind_ofBool (b : Bool) : (ofBool b).HasKind .truth := by
  cases b with
  | true => exact Or.inl rfl
  | false => exact Or.inr rfl

theorem HasKind.exists_asBool (typed : v.HasKind .truth) : ∃ b, v.asBool = .ok b := by
  rcases typed with holds | fails
  · exact ⟨true, by rw [asBool, if_pos holds]⟩
  · exact ⟨false, by rw [asBool, fails]; rfl⟩

/-- An empty text is no number. -/
theorem HasKind.not_isEmpty (typed : v.HasKind .number) : v.isEmpty = false := by
  obtain ⟨x, reads⟩ := typed
  cases empty : v.isEmpty with
  | false => rfl
  | true =>
    rw [asDouble_eq_ok_iff, of_decide_eq_true empty] at reads
    cases reads

end Value

open Kind
open Value (hasKind_ofDouble hasKind_fixedText hasKind_ofBool asDouble_ofDouble)

/-- The kinds of what an operator takes on its left and on its right, and of what it gives. -/
inductive BinOp.Takes : BinOp → Kind → Kind → Kind → Prop where
  | plus : Takes .plus number number number
  | minus : Takes .minus number number number
  | times : Takes .times number number number
  | div : Takes .div number number number
  | mod : Takes .mod number number number
  | elvis : Takes .elvis number number number
  | greaterThan : Takes .greaterThan number number truth
  | lessThan : Takes .lessThan number number truth
  | equals (k k' : Kind) : Takes .equals k k' truth
  | notEquals (k k' : Kind) : Takes .notEquals k k' truth
  | and : Takes .and truth truth truth
  | or : Takes .or truth truth truth

section Operators

variable {left right v : Value} {x y : Double}

/-- Numbers are added, and not put one after the other. -/
theorem addValues_numbers (onLeft : left.asDouble = .ok x) (onRight : right.asDouble = .ok y) :
    addValues left right = .ofDouble (x.add y) := by
  rw [addValues, onLeft, onRight]

theorem applyBinary_typed {op : BinOp} {k k' r : Kind} (takes : op.Takes k k' r)
    (onLeft : left.HasKind k) (onRight : right.HasKind k') :
    ∃ v, applyBinary op left right = .ok v ∧ v.HasKind r := by
  cases takes with
  | plus =>
    obtain ⟨x, readsLeft⟩ := onLeft
    obtain ⟨y, readsRight⟩ := onRight
    exact ⟨_, congrArg Except.ok (addValues_numbers readsLeft readsRight), hasKind_ofDouble _⟩
  | minus | times | div | mod =>
    obtain ⟨x, readsLeft⟩ := onLeft
    obtain ⟨y, readsRight⟩ := onRight
    exact ⟨_, readBoth_taken readsLeft readsRight _, hasKind_ofDouble _⟩
  | greaterThan | lessThan =>
    obtain ⟨x, readsLeft⟩ := onLeft
    obtain ⟨y, readsRight⟩ := onRight
    exact ⟨_, readBoth_taken readsLeft readsRight _, hasKind_ofBool _⟩
  | elvis =>
    refine ⟨left, ?_, onLeft⟩
    simp [applyBinary, onLeft.not_isEmpty]
  | equals | notEquals => exact ⟨_, rfl, hasKind_ofBool _⟩
  | and | or =>
    obtain ⟨a, readsLeft⟩ := onLeft.exists_asBool
    obtain ⟨b, readsRight⟩ := onRight.exists_asBool
    exact ⟨_, readBoth_taken readsLeft readsRight _, hasKind_ofBool _⟩

theorem applyUnary_not (typed : v.HasKind .truth) :
    ∃ w, applyUnary .not v = .ok w ∧ w.HasKind .truth := by
  obtain ⟨b, reads⟩ := typed.exists_asBool
  refine ⟨.ofBool !b, ?_, hasKind_ofBool _⟩
  rw [applyUnary, reads]
  rfl

theorem matchText_ok {pattern : Value} {p : Pattern}
    (compiles : compilePattern pattern.text = .ok p) :
    ∃ w, matchText v pattern = .ok w ∧ w.HasKind .truth := by
  refine ⟨.ofBool (p.isFoundIn v.text), ?_, hasKind_ofBool _⟩
  rw [matchText, compiles]
  rfl

theorem round_ok {number places : Value} {n : Int} (typed : number.HasKind .number)
    (count : places.asI32 = .ok n) :
    ∃ w, Builtin.round [number, places] = .ok w ∧ w.HasKind .number := by
  obtain ⟨x, reads⟩ := typed
  refine ⟨.ofText (x.fixedText n.toNat), ?_, hasKind_fixedText _ _⟩
  simp only [Builtin.round, reads, count]

end Operators

namespace Expr

/-- The trees of a kind where variables have values. -/
inductive WellTyped (env : Env) : Kind → Expr → Prop where
  | lit {k : Kind} {v : Value} (s : Span) (typed : v.HasKind k) : WellTyped env k (.lit s v)
  | var {k : Kind} {v : Value} {name : Text} (s : Span) (bound : env name = some v)
      (typed : v.HasKind k) : WellTyped env k (.var s name)
  | bin {k k' r : Kind} {op : BinOp} {left right : Expr} (s : Span) (takes : op.Takes k k' r)
      (onLeft : WellTyped env k left) (onRight : WellTyped env k' right) :
      WellTyped env r (.bin s op left right)
  | search {k : Kind} {e : Expr} {pattern : Value} {p : Pattern} (s t : Span)
      (subject : WellTyped env k e) (compiles : compilePattern pattern.text = .ok p) :
      WellTyped env .truth (.bin s .regexMatch e (.lit t pattern))
  | not {e : Expr} (s : Span) (operand : WellTyped env .truth e) :
      WellTyped env .truth (.un s .not e)
  | round {e : Expr} {places : Value} {n : Int} (s t : Span) (number : WellTyped env .number e)
      (count : places.asI32 = .ok n) (few : n ≤ 1100) :
      WellTyped env .number (.call s Builtin.roundName [e, .lit t places])
  | cond {k : Kind} {test yes no : Expr} (s : Span) (condition : WellTyped env .truth test)
      (onYes : WellTyped env k yes) (onNo : WellTyped env k no) :
      WellTyped env k (.cond s test yes no)

section Soundness

variable {ctx : Context} {s : Span} {v : Value} {k : Kind} {e l r : Expr}

theorem outcome_round {a b : Value} (number : l.outcome ctx = .ok a)
    (places : r.outcome ctx = .ok b) (made : Builtin.round [a, b] = .ok v) :
    (call s Builtin.roundName [l, r]).outcome ctx = .ok (v.withSpan s) :=
  outcome_of_operands (.cons number (.cons places .nil))
    (by rw [conclude, callFunction_round, made]; rfl)

def EndsIn (ctx : Context) (k : Kind) (e : Expr) : Prop :=
  ∃ v, e.outcome ctx = .ok v ∧ v.HasKind k

theorem EndsIn.moved (ended : e.outcome ctx = .ok (v.withSpan s)) (kind : v.HasKind k) :
    EndsIn ctx k e :=
  ⟨_, ended, Value.HasKind.of_text (v := v) rfl kind⟩

theorem WellTyped.endsIn (typed : WellTyped ctx.env k e) : EndsIn ctx k e := by
  induction typed with
  | lit s kind => exact .moved outcome_lit kind
  | var s bound kind => exact .moved (outcome_var bound) kind
  | bin s takes _ _ onLeft onRight =>
    obtain ⟨a, left, leftKind⟩ := onLeft
    obtain ⟨b, right, rightKind⟩ := onRight
    obtain ⟨v, made, kind⟩ := applyBinary_typed takes leftKind rightKind
    exact .moved (outcome_bin left right made) kind
  | search s t _ compiles subject =>
    obtain ⟨a, ended, _⟩ := subject
    obtain ⟨v, made, kind⟩ := matchText_ok compiles
    exact .moved (outcome_bin ended outcome_lit made) kind
  | not s _ operand =>
    obtain ⟨a, ended, truth⟩ := operand
    obtain ⟨v, made, kind⟩ := applyUnary_not truth
    exact .moved (outcome_un ended made) kind
  | @round e places n s t _ count _ number =>
    -- the count is read from the text, and so from the value moved to its own place
    obtain ⟨a, ended, isNumber⟩ := number
    have moved : (places.withSpan t).asI32 = .ok n :=
      readsText_asI32.of_text (v := places) rfl count
    obtain ⟨v, made, kind⟩ := round_ok isNumber moved
    exact .moved (outcome_round ended outcome_lit made) kind
  | cond s _ _ _ condition onYes onNo =>
    obtain ⟨a, ended, truth⟩ := condition
    obtain ⟨b, reads⟩ := truth.exists_asBool
    obtain ⟨v, taken, kind⟩ : EndsIn ctx _ (if b then _ else _) := by
      cases b with
      | false => exact onNo
      | true => exact onYes
    exact .moved (outcome_cond ended reads taken) kind

/-- What stands in a well-typed tree is well-typed, but for the last arguments of roundings and
the patterns, which are literals. -/
theorem WellTyped.node {env : Env} {n : Expr} (typed : WellTyped env k e) (inside : n ∈ e.nodes) :
    n.isTerminal = true ∨ ∃ k, WellTyped env k n := by
  induction typed with
  | lit s kind =>
    rw [List.mem_singleton.mp inside]
    exact Or.inl rfl
  | var s bound kind =>
    rw [List.mem_singleton.mp inside]
    exact Or.inl rfl
  | bin s takes onLeft onRight left right =>
    rcases List.mem_cons.mp inside with rfl | part
    · exact Or.inr ⟨_, .bin s takes onLeft onRight⟩
    · exact (List.mem_append.mp part).elim left right
  | search s t isTyped compiles subject =>
    rcases List.mem_cons.mp inside with rfl | part
    · exact Or.inr ⟨_, .search s t isTyped compiles⟩
    · rcases List.mem_append.mp part with part | pattern
      · exact subject part
      · rw [List.mem_singleton.mp pattern]
        exact Or.inl rfl
  | not s isTyped operand =>
    rcases List.mem_cons.mp inside with rfl | part
    · exact Or.inr ⟨_, .not s isTyped⟩
    · exact operand part
  | round s t isTyped count few number =>
    rcases List.mem_cons.mp inside with rfl | part
    · exact Or.inr ⟨_, .round s t isTyped count few⟩
    · rcases List.mem_append.mp part with part | places
      · exact number part
      · rw [List.mem_singleton.mp places]
        exact Or.inl rfl
  | cond s condition onYes onNo test yes no =>
    rcases List.mem_cons.mp inside with rfl | part
    · exact Or.inr ⟨_, .cond s condition onYes onNo⟩
    · rcases List.mem_append.mp part with part | part
      · exact (List.mem_append.mp part).elim test yes
      · exact no part

theorem WellTyped.sum {env : Env} (typed : WellTyped env k (.bin s .plus l r)) :
    WellTyped env .number l ∧ WellTyped env .number r := by
  cases typed with
  | bin s takes onLeft onRight =>
    cases takes
    exact ⟨onLeft, onRight⟩

end Soundness

/-- A well-typed tree ends in a value of its kind, whatever the host is. Every sum in it adds, and
never puts texts one after the other: its value is the sum of the numbers that its operands are,
and reads as this sum. -/
theorem evaluate_wellTyped {k : Kind} {e : Expr} {env : Env} (typed : WellTyped env k e)
    (source : Option Source) (settings : Settings) :
    (∃ v, (evaluate e env source settings).outcome = .ok v ∧ v.HasKind k) ∧
    ∀ s l r, .bin s .plus l r ∈ e.nodes → ∃ a b x y v,
      (evaluate l env source settings).outcome = .ok a ∧ a.asDouble = .ok x ∧
      (evaluate r env source settings).outcome = .ok b ∧ b.asDouble = .ok y ∧
      (evaluate (.bin s .plus l r) env source settings).outcome = .ok v ∧
      v.text = (x.add y).plainText ∧ v.asDouble = .ok (x.add y) := by
  have ends : ∀ {k e}, WellTyped env k e → EndsIn ⟨env, source, settings.trace⟩ k e :=
    fun typed => typed.endsIn
  refine ⟨ends typed, ?_⟩
  intro s l r inside
  rcases typed.node inside with terminal | ⟨k, sum⟩
  · cases terminal
  · obtain ⟨onLeft, onRight⟩ := sum.sum
    obtain ⟨a, left, x, readsLeft⟩ := ends onLeft
    obtain ⟨b, right, y, readsRight⟩ := ends onRight
    have adds : applyBinary .plus a b = .ok (.ofDouble (x.add y)) :=
      congrArg Except.ok (addValues_numbers readsLeft readsRight)
    exact ⟨a, b, x, y, _, left, readsLeft, right, readsRight, outcome_bin left right adds, rfl,
      asDouble_ofDouble _ _⟩

/-- The sum of an infinity and its opposite is rounded, and compared with a bound text. -/
theorem evaluate_wellTyped_comparison :
    let env : Env := .ofList [("x", ⟨"1e999", none⟩)]
    let difference : Expr := .bin ⟨6, 13, 0⟩ .plus (.var ⟨6, 7, 0⟩ "x")
      (.lit ⟨10, 13, 0⟩ ⟨"-INF", none⟩)
    let rounded : Expr := .call ⟨0, 20, 0⟩ Builtin.roundName
      [difference, .lit ⟨15, 19, 0⟩ ⟨"1100", none⟩]
    let e : Expr := .bin ⟨0, 24, 0⟩ .notEquals rounded (.var ⟨23, 24, 0⟩ "x")
    WellTyped env .truth e ∧
    (∃ v, (evaluate e env none {}).outcome = .ok v ∧ v.HasKind .truth) ∧
    (∃ a b x y v, (evaluate (.var ⟨6, 7, 0⟩ "x") env none {}).outcome = .ok a ∧
      a.asDouble = .ok x ∧
      (evaluate (.lit ⟨10, 13, 0⟩ ⟨"-INF", none⟩) env none {}).outcome = .ok b ∧
      b.asDouble = .ok y ∧ (evaluate difference env none {}).outcome = .ok v ∧
      v.text = (x.add y).plainText ∧ v.asDouble = .ok (x.add y)) := by
  intro env difference rounded e
  have number : Value.HasKind ⟨"1e999", none⟩ .number :=
    ⟨.inf false, Value.asDouble_eq_ok_iff.mpr (by decide +kernel)⟩
  have opposite : Value.HasKind ⟨"-INF", none⟩ .number :=
    ⟨.inf true, Value.asDouble_eq_ok_iff.mpr (by decide +kernel)⟩
  have typed : WellTyped env .truth e :=
    .bin _ (.notEquals .number .number)
      (.round _ _ (.bin _ .plus (.var _ rfl number) (.lit _ opposite)) rfl (by decide))
      (.var _ rfl number)
  have sound := evaluate_wellTyped typed none {}
  exact ⟨typed, sound.1, sound.2 _ _ _ (by simp [e, rounded, difference, nodes, nodesOfAll])⟩

end Expr

end TextExpr
