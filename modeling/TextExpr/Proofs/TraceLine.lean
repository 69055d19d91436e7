import TextExpr.Proofs.Canonical
import TextExpr.Proofs.Trace

/-!
# Lines of a trace

The line of a node has the text of the node, its span and the shown form of its value. A literal is
written as an escaped string and a value is shown with escapes, so no point of theirs breaks the
line. What is written as it is are the names of variables and functions and the declared operators.
-/
namespace TextExpr

/-- A control character, or the separator of lines or of paragraphs. -/
def Point.breaks (p : Point) : Bool :=
  p.code < 0x20 || 0x7F ≤ p.code && p.code < 0xA0 || p.code = 0x2028 || p.code = 0x2029

/-- No point of the text breaks a line. -/
def Text.Unbroken (t : Text) : Prop := ∀ p ∈ t, p.breaks = false

instance (t : Text) : Decidable t.Unbroken :=
  inferInstanceAs (Decidable (∀ p ∈ t, p.breaks = false))

variable {t u : Text} {p : Point}

namespace Text

@[simp] theorem unbroken_nil : Unbroken [] := by simp [Unbroken]

@[simp] theorem unbroken_cons : Unbroken (p :: t) ↔ p.breaks = false ∧ Unbroken t :=
  List.forall_mem_cons

@[simp] theorem unbroken_append : Unbroken (t ++ u) ↔ Unbroken t ∧ Unbroken u :=
  List.forall_mem_append

theorem unbroken_flatMap {f : Point → Text} (each : ∀ p, Unbroken (f p)) (t : Text) :
    Unbroken (t.flatMap f) := by
  intro p member
  obtain ⟨q, _, inside⟩ := List.mem_flatMap.mp member
  exact each q p inside

theorem breaks_of_ascii (above : 0x20 ≤ p.code) (below : p.code < 0x7F) : p.breaks = false := by
  simp only [Point.breaks, Bool.or_eq_false_iff, Bool.and_eq_false_imp, decide_eq_false_iff_not,
    decide_eq_true_eq]
  omega

@[simp] theorem breaks_char {c : Char} (above : 0x20 ≤ c.toNat) (below : c.toNat < 0x7F) :
    (Point.char c).breaks = false :=
  breaks_of_ascii above below

end Text

open Text

section Numbers

theorem unbroken_digitChar : ∀ d < 16, (Point.char d.digitChar).breaks = false := by decide

theorem unbroken_toDigits {base : Nat} (large : 1 < base) (small : base ≤ 16) (n : Nat) :
    Unbroken ((Nat.toDigits base n).map .char) := by
  induction n using Nat.strongRecOn with
  | ind n ih =>
    rcases Nat.lt_or_ge n base with single | more
    · have digit := unbroken_digitChar n (Nat.lt_of_lt_of_le single small)
      rw [Nat.toDigits_of_lt_base single]
      simp [digit]
    · have below : n % base < 16 :=
        Nat.lt_of_lt_of_le (Nat.mod_lt n (Nat.zero_lt_of_lt large)) small
      have last := unbroken_digitChar (n % base) below
      have before := ih (n / base) (Nat.div_lt_self (by omega) large)
      rw [Nat.toDigits_of_base_le large more, List.map_append, unbroken_append]
      simp [before, last]

theorem unbroken_ofNat (n : Nat) : (Numeral.ofNat n).Unbroken :=
  unbroken_toDigits (by decide) (by decide) n

theorem unbroken_ofInt (i : Int) : (Numeral.ofInt i).Unbroken := by
  cases i with
  | ofNat n => exact unbroken_ofNat n
  | negSucc n => exact unbroken_cons.mpr ⟨rfl, unbroken_ofNat (n + 1)⟩

theorem unbroken_span (s : Span) : s.text.Unbroken := by
  rw [Span.text]
  simp only [unbroken_append]
  exact ⟨⟨unbroken_ofInt s.lo, by decide⟩, unbroken_ofInt s.hi⟩

theorem unbroken_hex (width n : Nat) : (Numeral.hex width n).Unbroken := by
  rw [Numeral.hex, unbroken_append]
  refine ⟨?_, unbroken_toDigits (by decide) (by decide) n⟩
  intro p zero
  rw [List.eq_of_mem_replicate zero]
  rfl

end Numbers

section Escapes

theorem not_isPrintable_of_breaks (breaks : p.breaks = true) :
    Unicode.isPrintable p.code = false := by
  have low : ∀ n < 0x20, Unicode.isPrintable n = false := by decide +kernel
  have high : ∀ n < 0xA0, 0x7F ≤ n → Unicode.isPrintable n = false := by decide +kernel
  have lines : Unicode.isPrintable 0x2028 = false := by decide +kernel
  have paragraphs : Unicode.isPrintable 0x2029 = false := by decide +kernel
  simp only [Point.breaks, Bool.or_eq_true, Bool.and_eq_true, decide_eq_true_eq] at breaks
  rcases breaks with ((below | ⟨above, below⟩) | line) | paragraph
  · exact low p.code below
  · exact high p.code below above
  · rw [line, lines]
  · rw [paragraph, paragraphs]

theorem unbroken_escape (n : Nat) : (Shown.escape n).Unbroken := by
  unfold Shown.escape
  split
  · exact unbroken_append.mpr ⟨by decide, unbroken_hex 2 n⟩
  split
  · exact unbroken_append.mpr ⟨by decide, unbroken_hex 4 n⟩
  · exact unbroken_append.mpr ⟨by decide, unbroken_hex 8 n⟩

theorem unbroken_showPoint {quote : Point} (whole : quote.breaks = false) (p : Point) :
    (Shown.showPoint quote p).Unbroken := by
  unfold Shown.showPoint
  split
  · rename_i special
    rcases special with rfl | rfl
    · exact unbroken_cons.mpr ⟨rfl, unbroken_cons.mpr ⟨whole, unbroken_nil⟩⟩
    · decide
  split
  · decide
  · decide
  · decide
  split
  next printable =>
    cases breaks : p.breaks with
    | true =>
      rw [not_isPrintable_of_breaks breaks] at printable
      cases printable
    | false => simp [breaks]
  next => exact unbroken_escape p.code

theorem quoteFor_breaks (t : Text) : (Shown.quoteFor t).breaks = false := by
  unfold Shown.quoteFor
  split <;> rfl

theorem unbroken_shown (t : Text) : t.shown.Unbroken := by
  have whole := quoteFor_breaks t
  have body := unbroken_flatMap (unbroken_showPoint whole) t
  simp [Text.shown, whole, body]

theorem unbroken_escapeCode (n : Nat) : (Quoted.escapeCode n).Unbroken :=
  unbroken_append.mpr ⟨by decide, unbroken_hex 4 n⟩

theorem shortEscape?_breaks {c : Char} (short : Quoted.shortEscape? p = some c) :
    (Point.char c).breaks = false := by
  unfold Quoted.shortEscape? at short
  split at short <;> cases short <;> rfl

theorem unbroken_encodeAsciiPoint (p : Point) : (Quoted.encodeAsciiPoint p).Unbroken := by
  unfold Quoted.encodeAsciiPoint
  split
  next c short =>
    simp only [unbroken_cons, unbroken_nil, and_true]
    exact ⟨rfl, shortEscape?_breaks short⟩
  split
  next inside => simp [breaks_of_ascii inside.1 inside.2]
  split
  · exact unbroken_escapeCode p.code
  · exact unbroken_append.mpr ⟨unbroken_escapeCode _, unbroken_escapeCode _⟩

theorem unbroken_encodeAscii (t : Text) : (Quoted.encodeAscii t).Unbroken := by
  have body := unbroken_flatMap unbroken_encodeAsciiPoint t
  have mark : (Point.char '"').breaks = false := rfl
  simp [Quoted.encodeAscii, Quoted.quote, mark, body]

end Escapes

namespace Expr

variable {e : Expr}

/-- The name of a variable or of a function that is called. -/
def name? : Expr → Option Text
  | .var _ name => some name
  | .call _ name _ => some name
  | _ => none

/-- No name in the tree has a point that breaks a line. -/
def UnbrokenNames (e : Expr) : Prop := ∀ n ∈ e.nodes, ∀ name ∈ n.name?, name.Unbroken

instance (e : Expr) : Decidable e.UnbrokenNames :=
  inferInstanceAs (Decidable (∀ n ∈ e.nodes, ∀ name ∈ n.name?, name.Unbroken))

theorem UnbrokenNames.of_mem {n : Expr} (names : e.UnbrokenNames) (inside : n ∈ e.nodes) :
    n.UnbrokenNames := fun m deeper => names m (nodes_subset inside deeper)

theorem unbroken_binary {op : BinOp} (declared : op.isDeclared = true) : op.symbol.Unbroken := by
  cases op with
  | undeclared symbol => cases declared
  | _ => decide

theorem unbroken_unary {op : UnaryOp} (declared : op.isDeclared = true) : op.symbol.Unbroken := by
  cases op with
  | undeclared symbol => cases declared
  | not => decide

theorem unbroken_renderArgs {es : List Expr} (each : ∀ e ∈ es, e.render.Unbroken) :
    (renderArgs es).Unbroken := by
  cases es with
  | nil => exact unbroken_nil
  | cons e rest =>
    obtain ⟨first, later⟩ := List.forall_mem_cons.mp each
    rw [renderArgs_cons, unbroken_append]
    refine ⟨first, ?_⟩
    intro p member
    obtain ⟨e', part, inside⟩ := List.mem_flatMap.mp member
    have next : Unbroken (.char ',' :: ([.char ' '] ++ (e'.render ++ []))) := by
      simp [later e' part]
    exact next p inside

/-- A tree is written on one line if its names are. -/
theorem unbroken_render (declared : e.WellFormed) (names : e.UnbrokenNames) :
    e.render.Unbroken := by
  induction e using induction_children with
  | step e ih =>
    have parts : ∀ c ∈ e.children, c.render.Unbroken := fun c part =>
      ih c part (declared.child part) (names.of_mem (child_mem_nodes part))
    -- what the node itself adds to the texts of its parts is its operator or its name
    have operator := declared e (self_mem_nodes e)
    have name := names e (self_mem_nodes e)
    cases e with
    | lit s v => exact unbroken_encodeAscii v.text
    | var s x => exact name x rfl
    | bin s op l r =>
      simp only [children, List.forall_mem_cons] at parts
      simp [render, parts, unbroken_binary operator]
    | un s op e =>
      simp only [children, List.forall_mem_cons] at parts
      simp [render, parts, unbroken_unary operator]
    | cond s c t e =>
      simp only [children, List.forall_mem_cons] at parts
      have words : (ofString "(if ").Unbroken ∧ (ofString " then ").Unbroken ∧
          (ofString " else ").Unbroken := by decide
      simp [render, parts, words]
    | index s c k =>
      simp only [children, List.forall_mem_cons] at parts
      simp [render, parts]
    | call s x args =>
      have arguments : (renderArgs args).Unbroken := unbroken_renderArgs parts
      simp [render, arguments, name x rfl]

theorem unbroken_evaluated (declared : e.WellFormed) (names : e.UnbrokenNames) (t : Text) :
    (Entry.evaluated e t).message.Unbroken := by
  have tree := unbroken_render declared names
  have signs : (ofString " @ ").Unbroken ∧ (ofString " => ").Unbroken := by decide
  simp [Entry.message, tree, signs, unbroken_span, unbroken_shown]

/-- No line of a trace is broken by a text that a literal or a variable holds or that evaluation
makes of them, if no name in the tree breaks a line. -/
theorem evaluate_traced_unbroken (e : Expr) (env : Env) (declared : e.WellFormed)
    (names : e.UnbrokenNames) :
    ∀ entry ∈ (evaluate e env none ⟨true⟩).log, entry.message.Unbroken := by
  intro entry member
  have traced : (evaluate e env none ⟨true⟩).log = lines (outcome ⟨env, none, true⟩) e :=
    log_eq_lines rfl rfl e
  rw [traced] at member
  obtain ⟨p, n, v, comes, _, rfl⟩ := exists_of_mem_lines _ member
  have inside : n ∈ e.nodes := (visits_of_reached comes).mem_nodes
  exact unbroken_evaluated (declared.of_mem inside) (names.of_mem inside) v.text

/-- A literal with an end of line and what looks like another line, and a variable with both
separators, a control character above ASCII and a lone surrogate. -/
theorem evaluate_traced_unbroken_sum :
    let e : Expr := .bin ⟨0, 9, 0⟩ .plus (.lit ⟨0, 5, 0⟩ ⟨"1\n2 @ 0..1 => '3'", none⟩)
      (.var ⟨8, 9, 0⟩ "x")
    let x : Text := [.ofCode 0x2028, .ofCode 0x2029, .ofCode 0x85, .ofCode 0xD800]
    let run := evaluate e (.ofList [("x", ⟨x, none⟩)]) none ⟨true⟩
    e.WellFormed ∧ e.UnbrokenNames ∧
      (∃ v, run.outcome = .ok v ∧ ¬ v.text.Unbroken) ∧ run.log.length = 3 ∧
      ∀ entry ∈ run.log, entry.message.Unbroken := by
  intro e x run
  have declared : e.WellFormed := by decide +kernel
  have names : e.UnbrokenNames := by decide +kernel
  exact ⟨declared, names, ⟨_, rfl, by decide +kernel⟩, by decide +kernel,
    evaluate_traced_unbroken e _ declared names⟩

end Expr

end TextExpr
