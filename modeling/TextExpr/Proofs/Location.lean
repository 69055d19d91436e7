import TextExpr.Proofs.Origin

/-!
# Where an error points

An error points at a node of the tree: at the node that raises it, or at the part whose value
the node rejects. The one exception is a pattern that the matching operator refuses. That error
points nowhere.
-/
namespace TextExpr.Expr

variable {ctx : Context} {e n : Expr} {f : Failure} {error : EvalError}

theorem span?_eq_head? (error : EvalError) : error.span? = error.spans.head? := by
  cases error with
  | conversion v target cause => cases h : v.span <;> simp [EvalError.span?, EvalError.spans, h]
  | _ => rfl

/-- Evaluation comes to a matching operator whose pattern is refused by an error. -/
def ReachesInvalidMatch (ctx : Context) (e : Expr) : Prop :=
  ∃ s l r subject pattern refusal, Visits ctx e (.bin s .regexMatch l r) ∧
    l.outcome ctx = .ok subject ∧ r.outcome ctx = .ok pattern ∧
    Pattern.compile pattern.text = .error refusal ∧ refusal.IsError

theorem RejectsPart.span? {parts : List Expr} (rejects : RejectsPart ctx parts error) :
    ∃ c ∈ parts, error.span? = some c.span := by
  obtain ⟨c, part, _, _, _, spans⟩ := rejects
  exact ⟨c, part, by rw [span?_eq_head?, spans]; rfl⟩

/-- The error of a node points at the node or at a part of it, unless the node is a matching
operator whose pattern is refused. -/
theorem ErrorAt.span? (raised : ErrorAt ctx error n) :
    (∃ m ∈ n.nodes, error.span? = some m.span) ∨
    ∃ s l r, n = .bin s .regexMatch l r ∧ InvalidPattern ctx r error := by
  have ofPart : ∀ {parts}, parts ⊆ n.children → RejectsPart ctx parts error →
      ∃ m ∈ n.nodes, error.span? = some m.span := by
    intro parts sub rejects
    obtain ⟨c, part, points⟩ := rejects.span?
    exact ⟨c, child_mem_nodes (sub part), points⟩
  have ofSelf : ∀ {rest}, error.spans = n.span :: rest →
      ∃ m ∈ n.nodes, error.span? = some m.span := by
    intro rest spans
    exact ⟨n, self_mem_nodes n, by rw [span?_eq_head?, spans]; rfl⟩
  cases n with
  | lit s v => exact raised.elim
  | var s name => exact Or.inl (ofSelf raised.2.2)
  | bin s op l r =>
    rcases raised with rejects | ⟨rfl, invalid⟩
    · exact Or.inl (ofPart (by simp [children]) rejects)
    · exact Or.inr ⟨s, l, r, rfl, invalid⟩
  | un s op e => exact Or.inl (ofPart (by simp [children]) raised)
  | cond s test yes no => exact Or.inl (ofPart (by simp [children]) raised)
  | index s c k =>
    rcases raised with rejects | ⟨v, j, _, _, _, _, spans⟩
    · exact Or.inl (ofPart (by simp [children]) rejects)
    · exact Or.inl (ofSelf spans)
  | call s name args =>
    obtain ⟨inner, _, _, spans⟩ := raised
    exact Or.inl (ofSelf spans)

theorem ReachesInvalidMatch.outcome (reaches : e.ReachesInvalidMatch ctx) :
    ∃ reason, e.outcome ctx = .error (.error (.invalidRegex reason)) := by
  obtain ⟨s, l, r, subject, pattern, refusal, visits, left, right, refused, isError⟩ := reaches
  have invalid : compilePattern pattern.text =
      .error (.error (.invalidRegex (refusal.message pattern.text))) :=
    compilePattern_eq_error_iff.mpr (Or.inr (Or.inr ⟨refusal, refused, isError, rfl⟩))
  have failed : matchText subject pattern =
      .error (.error (.invalidRegex (refusal.message pattern.text))) :=
    matchText_eq_error_iff.mpr invalid
  refine ⟨refusal.message pattern.text, outcome_eq_error_iff_raises.mpr ⟨_, visits, ?_⟩⟩
  exact ⟨[subject, pattern], .cons left (.cons right .nil), map_eq_error_iff.mpr failed⟩

theorem Raises.reachesInvalidMatch {s : Span} {l r : Expr}
    (visits : Visits ctx e (.bin s .regexMatch l r))
    (raises : (bin s .regexMatch l r).Raises ctx f) (invalid : InvalidPattern ctx r error) :
    e.ReachesInvalidMatch ctx := by
  obtain ⟨subject, left⟩ := raises.origin.succeed l (by simp [operands, children])
  obtain ⟨pattern, reason, right, refused, _⟩ := invalid
  rcases compilePattern_eq_error_iff.mp refused with
    ⟨_, isFault⟩ | ⟨count, _, isFault⟩ | ⟨refusal, compiled, isError, _⟩
  · cases isFault
  · cases isFault
  · exact ⟨s, l, r, subject, pattern, refusal, visits, left, right, compiled, isError⟩

/-- An error points at a node of the tree, unless evaluation comes to a matching operator
whose pattern is refused. -/
theorem error_located_iff (e : Expr) (env : Env) (source : Option Source) (settings : Settings)
    (f : Failure) (error : EvalError)
    (failed : (evaluate e env source settings).outcome = .error f)
    (raised : f.error? = some error) :
    (∃ n ∈ e.nodes, error.span? = some n.span) ↔
      ¬ e.ReachesInvalidMatch ⟨env, source, settings.trace⟩ := by
  constructor
  · rintro ⟨n, _, points⟩ reaches
    obtain ⟨reason, failed'⟩ := reaches.outcome
    cases failed'.symm.trans failed
    cases raised
    cases points
  · intro absent
    obtain ⟨n, visits, raises⟩ := outcome_eq_error_iff_raises.mp failed
    rcases (raises.errorAt raised).span? with ⟨m, inside, points⟩ | ⟨s, l, r, rfl, invalid⟩
    · exact ⟨m, nodes_subset visits.mem_nodes inside, points⟩
    · exact absurd (raises.reachesInvalidMatch visits invalid) absent

theorem error_located_in_conditional :
    let e : Expr := .cond ⟨0, 39, 0⟩ (.lit ⟨3, 9, 0⟩ ⟨"true", none⟩)
      (.index ⟨15, 23, 0⟩ (.lit ⟨15, 18, 0⟩ ⟨"3", none⟩) (.lit ⟨19, 22, 0⟩ ⟨"0", none⟩))
      (.bin ⟨29, 39, 0⟩ .regexMatch (.lit ⟨29, 32, 0⟩ ⟨"a", none⟩)
        (.lit ⟨36, 39, 0⟩ ⟨"(", none⟩))
    let error : EvalError := (EvalError.cannotIndex "3").within ⟨15, 23, 0⟩
    (evaluate e .empty none {}).outcome = .error (.error error) ∧
      ((∃ n ∈ e.nodes, error.span? = some n.span) ↔
        ¬ e.ReachesInvalidMatch ⟨.empty, none, false⟩) := by
  intro e error
  have failed : (evaluate e .empty none {}).outcome = .error (.error error) := by
    decide +kernel
  exact ⟨failed, error_located_iff e .empty none {} _ error failed rfl⟩

/-- An error of a well-formed tree that points nowhere: the pattern opens a group and does
not close it. -/
theorem wellFormed_error_unlocated :
    let e : Expr := .bin ⟨0, 10, 0⟩ .regexMatch (.lit ⟨0, 3, 0⟩ ⟨"a", none⟩)
      (.lit ⟨7, 10, 0⟩ ⟨"(", none⟩)
    let error : EvalError :=
      .invalidRegex "missing ), unterminated subpattern at position 0"
    e.WellFormed ∧ (evaluate e .empty none {}).outcome = .error (.error error) ∧
      error.span? = none := by
  decide +kernel

end TextExpr.Expr
