import TextExpr.Proofs.AsciiQuotation
import TextExpr.Proofs.Canonical
import TextExpr.Proofs.Digits
import TextExpr.Unicode.Word

/-!
# What a text of a tree begins with

The first point of a tree tells a negation, a literal, a name and a tree in parentheses from each
other. Behind a parenthesis the word `if` tells a conditional from a binary operation, as long as
no name is this word.
-/
namespace TextExpr

def isWordPoint (p : Point) : Bool := Unicode.isWord p.code

/-- Names that can be told from the word a conditional begins with, and from all marks. -/
def isName (name : Text) : Bool :=
  !name.isEmpty && name.all isWordPoint && name != Text.ofString "if"

/-- What goes on with a text that begins with a name: more of the name, or its arguments. -/
def continuesName (p : Point) : Bool := isWordPoint p || p == .char '('

/-- What goes on with a text that begins with an operand: more of a name, arguments or a key. -/
def continuesOperand (p : Point) : Bool := continuesName p || p == .char '['

section Points

variable {t : Text}

theorem isName_iff : isName t = true ↔
    t ≠ [] ∧ (∀ p ∈ t, isWordPoint p = true) ∧ t ≠ Text.ofString "if" := by
  simp [isName, and_assoc]

theorem NotFirst.of_name (ends : NotFirst continuesName t) : NotFirst isWordPoint t := by
  intro p first
  have neither := ends p first
  rw [continuesName, Bool.or_eq_false_iff] at neither
  exact neither.1

theorem NotFirst.of_operand (ends : NotFirst continuesOperand t) : NotFirst continuesName t := by
  intro p first
  have neither := ends p first
  rw [continuesOperand, Bool.or_eq_false_iff] at neither
  exact neither.1

theorem ends_space (t : Text) : NotFirst continuesOperand (.char ' ' :: t) :=
  notFirst_cons (by decide +kernel)

theorem ends_comma (t : Text) : NotFirst continuesOperand (.char ',' :: t) :=
  notFirst_cons (by decide +kernel)

theorem ends_close (t : Text) : NotFirst continuesOperand (.char ')' :: t) :=
  notFirst_cons (by decide +kernel)

theorem ends_bracket (t : Text) : NotFirst continuesOperand (.char ']' :: t) :=
  notFirst_cons (by decide +kernel)

theorem opens_key (t : Text) : NotFirst continuesName (.char '[' :: t) :=
  notFirst_cons (by decide +kernel)

theorem opens_args (t : Text) : NotFirst isWordPoint (.char '(' :: t) :=
  notFirst_cons (by decide +kernel)

theorem NotFirst.ne_cons {p : Point} {u : Text} (other : NotFirst (· == p) t) : t ≠ p :: u := by
  rintro rfl
  exact absurd (other p rfl) (by simp)

/-- A name is not over before the arguments of a call. -/
theorem not_ends_args (t : Text) : ¬ NotFirst continuesName (.char '(' :: t) :=
  fun ends => absurd (ends _ rfl) (by decide +kernel)

end Points

namespace Expr

def isLegible : Expr → Bool
  | .lit _ v => v.text.surrogateFree
  | .var _ name => isName name
  | .call _ name _ => isName name
  | e => e.operatorDeclared

/-- The operators are declared, the names are words other than `if`, and no literal holds a
surrogate. -/
def Legible (e : Expr) : Prop := ∀ n ∈ e.nodes, n.isLegible = true

instance (e : Expr) : Decidable e.Legible :=
  inferInstanceAs (Decidable (∀ n ∈ e.nodes, n.isLegible = true))

section Legible

variable {e n : Expr}

theorem Legible.self (legible : e.Legible) : e.isLegible = true := legible e (self_mem_nodes e)

theorem Legible.of_mem (legible : e.Legible) (inside : n ∈ e.nodes) : n.Legible :=
  fun m within => legible m (nodes_subset inside within)

theorem Legible.child (legible : e.Legible) (part : n ∈ e.children) : n.Legible :=
  legible.of_mem (child_mem_nodes part)

theorem Legible.wellFormed (legible : e.Legible) : e.WellFormed := by
  intro n inside
  have self := legible n inside
  cases n with
  | lit | var | call => rfl
  | _ => exact self

end Legible

section Marks

variable {e e' : Expr} {t u : Text}

/-- The mark a head is recognized by, if it does not begin with a name. -/
def mark : Expr → Option Point
  | .lit .. => some (.char '"')
  | .bin .. => some (.char '(')
  | .cond .. => some (.char '(')
  | _ => none

theorem mark_of_word {p : Point} {rest : Text} (named : isName (p :: rest) = true) :
    none = if isWordPoint p then none else some p := by
  have word := (isName_iff.mp named).2.1 p List.mem_cons_self
  rw [if_pos word]

theorem mark_of_other {p : Point} (other : isWordPoint p = false) :
    some p = if isWordPoint p then none else some p := by
  rw [other]
  rfl

/-- The first point of a head is its mark or a point of a word. -/
theorem exists_render_head (legible : e.isLegible = true) (isHead : e.isHead = true) :
    ∃ p rest, e.render = p :: rest ∧ e.mark = if isWordPoint p then none else some p := by
  cases e with
  | un | index => cases isHead
  | lit s v => exact ⟨.char '"', _, rfl, mark_of_other (by decide +kernel)⟩
  | bin s op l r => exact ⟨.char '(', _, rfl, mark_of_other (by decide +kernel)⟩
  | cond s c t e => exact ⟨.char '(', _, rfl, mark_of_other (by decide +kernel)⟩
  | var s name =>
    cases name with
    | nil => cases legible
    | cons p rest => exact ⟨p, rest, rfl, mark_of_word legible⟩
  | call s name args =>
    cases name with
    | nil => cases legible
    | cons p rest => exact ⟨p, _, rfl, mark_of_word legible⟩

theorem mark_eq (legible : e.isLegible = true) (isHead : e.isHead = true)
    (legible' : e'.isLegible = true) (isHead' : e'.isHead = true)
    (same : e.render ++ t = e'.render ++ u) : e.mark = e'.mark := by
  obtain ⟨p, rest, written, mark⟩ := exists_render_head legible isHead
  obtain ⟨p', rest', written', mark'⟩ := exists_render_head legible' isHead'
  rw [written, written'] at same
  obtain ⟨rfl, _⟩ := List.cons.inj same
  rw [mark, mark']

/-- No head begins with a point that is neither a mark of heads nor in a word. -/
theorem notFirst_render_head {p : Point} (legible : e.isLegible = true) (isHead : e.isHead = true)
    (other : isWordPoint p = false) (noMark : e.mark ≠ some p) :
    NotFirst (· == p) (e.render ++ t) := by
  obtain ⟨q, rest, written, mark⟩ := exists_render_head legible isHead
  rw [written]
  refine notFirst_cons ?_
  rw [beq_eq_false_iff_ne]
  rintro rfl
  rw [other] at mark
  exact noMark mark

theorem mark_ne (e : Expr) : e.mark ≠ some (.char '!') ∧ e.mark ≠ some (.char ')') := by
  cases e <;> simp [mark]

theorem Legible.isLegible_head (legible : e.Legible) : e.head.isLegible = true :=
  legible _ (head_mem_nodes e)

theorem notFirst_negation (legible : e.Legible) :
    NotFirst (· == .char '!') (e.head.render ++ t) :=
  notFirst_render_head legible.isLegible_head (isHead_head e) (by decide +kernel)
    (mark_ne e.head).1

theorem notFirst_close (legible : e.Legible) : NotFirst (· == .char ')') (e.render ++ t) := by
  rw [render_eq_spine legible.wellFormed]
  cases e.negations with
  | zero =>
    rw [List.replicate_zero, List.nil_append, List.append_assoc]
    exact notFirst_render_head legible.isLegible_head (isHead_head e) (by decide +kernel)
      (mark_ne e.head).2
  | succ n => exact notFirst_cons (by decide)

theorem renderArgs_ne_close {rest : List Expr} (legible : e.Legible) :
    renderArgs (e :: rest) ++ t ≠ .char ')' :: u := by
  rw [renderArgs_cons, List.append_assoc]
  exact (notFirst_close legible).ne_cons

end Marks

section Forms

variable (s : Span) (op : BinOp) (name : Text) (args : List Expr) (l r c y n : Expr) (t : Text)

theorem render_call_append :
    (Expr.call s name args).render ++ t =
      name ++ .char '(' :: (renderArgs args ++ .char ')' :: t) := by
  simp [render]

theorem render_bin_append :
    (Expr.bin s op l r).render ++ t =
      .char '(' :: (l.render ++ .char ' ' :: (op.symbol ++ .char ' ' ::
        (r.render ++ .char ')' :: t))) := by
  simp [render]

theorem render_cond_append :
    (Expr.cond s c y n).render ++ t =
      .char '(' :: (Text.ofString "if" ++ .char ' ' :: (c.render ++ .char ' ' ::
        (Text.ofString "then " ++ (y.render ++ .char ' ' ::
          (Text.ofString "else " ++ (n.render ++ .char ')' :: t)))))) := by
  simp [render, Text.ofString]

theorem render_index_append :
    (Expr.index s c l).render ++ t = c.render ++ .char '[' :: (l.render ++ .char ']' :: t) := by
  simp [render]

end Forms

section Words

variable {e : Expr} {t u : Text}

/-- An operand is not the word that a conditional begins with. -/
theorem render_append_ne_if (legible : e.Legible) (ends : NotFirst continuesName t) :
    e.render ++ t ≠ Text.ofString "if" ++ .char ' ' :: u := by
  have word : ∀ p ∈ Text.ofString "if", isWordPoint p = true := by decide +kernel
  have ended : NotFirst isWordPoint (.char ' ' :: u) := (ends_space u).of_operand.of_name
  intro same
  induction e using induction_spine generalizing t with
  | bare e isHead =>
    cases e with
    | un | index => cases isHead
    | lit | bin | cond => cases same
    | var s name =>
      obtain ⟨_, word', other⟩ := isName_iff.mp legible.self
      exact other (append_inj_of_run word' word ends.of_name ended same).1
    | call s name args =>
      obtain ⟨_, word', other⟩ := isName_iff.mp legible.self
      rw [render_call_append] at same
      exact other (append_inj_of_run word' word (opens_args _) ended same).1
  | negated s op e ih =>
    rw [legible.wellFormed.eq_not] at same
    cases same
  | indexed s c k ih =>
    rw [render_index_append] at same
    exact ih (legible.child List.mem_cons_self) (opens_key _) same

end Words

end Expr

end TextExpr
