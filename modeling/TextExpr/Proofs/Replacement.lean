import TextExpr.Proofs.Matching

/-!
# Replacing a part of a tree

A tree with a hole is given by the nodes around the hole, the outermost first. Of the part in the
hole evaluation knows only the outcome. So parts with the same outcome can stand for each other
anywhere in a tree, and a part that has a value can be replaced by a literal of that value.
-/
namespace TextExpr.Expr

variable {R : Expr → Expr → Prop} {ctx : Context} {t t' e n : Expr}

/-- A node with one of its parts left open. -/
inductive Frame where
  | left (span : Span) (op : BinOp) (right : Expr)
  | right (span : Span) (op : BinOp) (left : Expr)
  | operand (span : Span) (op : UnaryOp)
  | test (span : Span) (yes no : Expr)
  | yes (span : Span) (test no : Expr)
  | no (span : Span) (test yes : Expr)
  | container (span : Span) (key : Expr)
  | key (span : Span) (container : Expr)
  | argument (span : Span) (name : Text) (before after : List Expr)

namespace Frame

def fill : Frame → Expr → Expr
  | left s op r, e => .bin s op e r
  | right s op l, e => .bin s op l e
  | operand s op, e => .un s op e
  | test s y n, e => .cond s e y n
  | yes s c n, e => .cond s c e n
  | no s c y, e => .cond s c y e
  | container s k, e => .index s e k
  | key s c, e => .index s c e
  | argument s name before after, e => .call s name (before ++ e :: after)

/-- Every part of a node is at the open place of a frame, and nothing else is. -/
theorem mem_children_iff : t ∈ e.children ↔ ∃ frame : Frame, frame.fill t = e := by
  constructor
  · intro part
    cases e with
    | lit | var => cases part
    | bin s op l r =>
      rcases List.mem_cons.mp part with rfl | part
      · exact ⟨.left s op r, rfl⟩
      · rw [List.mem_singleton.mp part]
        exact ⟨.right s op l, rfl⟩
    | un s op e =>
      rw [List.mem_singleton.mp part]
      exact ⟨.operand s op, rfl⟩
    | cond s c y n =>
      rcases List.mem_cons.mp part with rfl | part
      · exact ⟨.test s y n, rfl⟩
      rcases List.mem_cons.mp part with rfl | part
      · exact ⟨.yes s c n, rfl⟩
      · rw [List.mem_singleton.mp part]
        exact ⟨.no s c y, rfl⟩
    | index s c k =>
      rcases List.mem_cons.mp part with rfl | part
      · exact ⟨.container s k, rfl⟩
      · rw [List.mem_singleton.mp part]
        exact ⟨.key s c, rfl⟩
    | call s name args =>
      obtain ⟨before, after, rfl⟩ := List.append_of_mem part
      exact ⟨.argument s name before after, rfl⟩
  · rintro ⟨frame, rfl⟩
    cases frame <;> simp [fill, children]

/-- The parts beside the open one stay as they are. -/
theorem matching (frame : Frame) (reflexive : ∀ e, R e e) (part : R t t') :
    Matching Eq R (frame.fill t) (frame.fill t') := by
  cases frame with
  | left s op r => exact .bin rfl part (reflexive r)
  | right s op l => exact .bin rfl (reflexive l) part
  | operand s op => exact .un rfl part
  | test s y n => exact .cond rfl part (reflexive y) (reflexive n)
  | yes s c n => exact .cond rfl (reflexive c) part (reflexive n)
  | no s c y => exact .cond rfl (reflexive c) (reflexive y) part
  | container s k => exact .index rfl part (reflexive k)
  | key s c => exact .index rfl (reflexive c) part
  | argument s name before after =>
    have others : ∀ es, List.Forall₂ R es es := fun es =>
      List.forall₂_same.mpr fun e _ => reflexive e
    exact .call rfl (List.rel_append (others before) (.cons part (others after)))

end Frame

/-- The tree that the frames make of the part in the hole. -/
def fill (frames : List Frame) (e : Expr) : Expr := frames.foldr Frame.fill e

theorem mem_nodes_iff_exists_fill : n ∈ e.nodes ↔ ∃ frames, fill frames n = e := by
  constructor
  · intro inside
    induction e using induction_children with
    | step e ih =>
      rw [nodes_eq, List.mem_cons, List.mem_flatMap] at inside
      rcases inside with rfl | ⟨c, part, inside⟩
      · exact ⟨[], rfl⟩
      · obtain ⟨frame, rfl⟩ := Frame.mem_children_iff.mp part
        obtain ⟨frames, rfl⟩ := ih c part inside
        exact ⟨frame :: frames, rfl⟩
  · rintro ⟨frames, rfl⟩
    induction frames with
    | nil => exact self_mem_nodes n
    | cons frame frames ih => exact mem_nodes_of_child (Frame.mem_children_iff.mpr ⟨frame, rfl⟩) ih

theorem context_alike_self (ctx : Context) : Context.Alike Eq ctx ctx where
  reflexive := fun _ => rfl
  env := fun _ => rfl
  answers := by
    intro name args args' same
    -- Arguments that nothing tells apart are equal, and get the same answer.
    have equal : List.Forall₂ Eq args args' := same.imp fun _ _ alike => alike.eq
    rw [List.forall₂_eq_eq_eq] at equal
    rw [equal]
    exact .refl (fun _ => rfl) _

/-- A node around the hole passes on that the outcomes of the parts are the same. -/
theorem Frame.outcome_fill (frame : Frame) (same : OutcomesAlike Eq ctx ctx t t') :
    OutcomesAlike Eq ctx ctx (frame.fill t) (frame.fill t') := by
  have unchanged : ∀ e, OutcomesAlike Eq ctx ctx e e := fun e =>
    .refl_of (Value.Alike.refl fun _ => rfl) (Failure.Alike.refl fun _ => rfl) (e.outcome ctx)
  exact (frame.matching unchanged same).outcome (context_alike_self ctx)

theorem outcome_fill (frames : List Frame)
    (same : SameOutcome (t.outcome ctx) (t'.outcome ctx)) :
    SameOutcome ((fill frames t).outcome ctx) ((fill frames t').outcome ctx) := by
  rw [sameOutcome_iff] at same ⊢
  -- From the hole outwards, one frame at a time.
  induction frames with
  | nil => exact same
  | cons frame frames ih => exact frame.outcome_fill ih

/-- A value has the span of its node already, so the literal keeps it. -/
theorem outcome_literal {v : Value} (ended : t.outcome ctx = .ok v) :
    (Expr.lit t.span v).outcome ctx = t.outcome ctx := by
  have located : v.withSpan t.span = v := by
    rw [Value.withSpan, ← outcome_span ended]
  rw [ended, outcome, eval, outcome_finish]
  exact congrArg Except.ok located

/-- Parts with the same outcome leave the same outcome to the tree around them, and so does the
literal, at the span of the part, of the value that a part has. -/
theorem sameOutcome_fill (frames : List Frame) (t t' : Expr) (env : Env) (source : Option Source)
    (settings : Settings) :
    (SameOutcome (evaluate t env source settings).outcome
        (evaluate t' env source settings).outcome →
      SameOutcome (evaluate (fill frames t) env source settings).outcome
        (evaluate (fill frames t') env source settings).outcome) ∧
    ∀ v, (evaluate t env source settings).outcome = .ok v →
      SameOutcome (evaluate (fill frames (.lit t.span v)) env source settings).outcome
        (evaluate (fill frames t) env source settings).outcome := by
  refine ⟨outcome_fill frames, fun v ended => outcome_fill frames ?_⟩
  rw [outcome_literal ended]
  exact .refl _

/-- A sum as the number of places of a rounding in a branch: the value is refused, and the error
shows its span. -/
theorem sameOutcome_fill_places :
    let t : Expr := .bin ⟨17, 26, 0⟩ .plus (.lit ⟨17, 20, 0⟩ ⟨"a", none⟩) (.var ⟨23, 26, 0⟩ "b")
    let t' : Expr := .lit ⟨17, 26, 0⟩ ⟨"ab", none⟩
    let v : Value := ⟨"ab", some ⟨17, 26, 0⟩⟩
    let frames : List Frame :=
      [.yes ⟨0, 40, 0⟩ (.lit ⟨0, 4, 0⟩ ⟨"true", none⟩) (.var ⟨36, 37, 0⟩ "c"),
        .argument ⟨9, 27, 0⟩ "round" [.lit ⟨15, 16, 0⟩ ⟨"1", none⟩] []]
    let env : Env := .ofList [("b", ⟨"b", none⟩)]
    let error : EvalError := .conversion v "i32" none
    (evaluate t env none {}).outcome = .ok v ∧
      (evaluate (fill frames t) env none {}).outcome =
        .error (.reported (error.within ⟨9, 27, 0⟩) (.error error)) ∧
      SameOutcome (evaluate (fill frames t) env none {}).outcome
        (evaluate (fill frames t') env none {}).outcome ∧
      SameOutcome (evaluate (fill frames (.lit t.span v)) env none {}).outcome
        (evaluate (fill frames t) env none {}).outcome := by
  intro t t' v frames env error
  have ended : (evaluate t env none {}).outcome = .ok v := by decide +kernel
  have ended' : (evaluate t' env none {}).outcome = .ok v := by decide +kernel
  obtain ⟨replaced, literal⟩ := sameOutcome_fill frames t t' env none {}
  refine ⟨ended, by decide +kernel, replaced ?_, literal v ended⟩
  rw [ended, ended']
  exact .refl _

end TextExpr.Expr
