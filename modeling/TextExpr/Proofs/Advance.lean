import TextExpr.Pattern.Search

/-!
# Matching goes forward

What is matched after a node begins no earlier than the node, and inside the text if the node
does. So a match ends no earlier than it begins, and the matches of a text follow each other:
each is the first that a search finds from where the one before it ended, until a search finds
none. The rounds that are counted for them are enough.
-/
namespace TextExpr.Pattern

variable {text : Subject} {s s' s'' : Spot}

/-- The second position is no earlier than the first, and no farther out of the text. -/
structure Reaches (text : Subject) (s s' : Spot) : Prop where
  le : s.pos ≤ s'.pos
  inside : s.pos ≤ text.size → s'.pos ≤ text.size

theorem Reaches.of_pos_eq (same : s'.pos = s.pos) : Reaches text s s' :=
  ⟨by omega, by omega⟩

theorem Reaches.refl (s : Spot) : Reaches text s s := .of_pos_eq rfl

theorem Reaches.trans (first : Reaches text s s') (second : Reaches text s' s'') :
    Reaches text s s'' where
  le := Nat.le_trans first.le second.le
  inside := fun start => second.inside (first.inside start)

/-- What comes of a matcher comes of what is matched after it, from a position that it reaches. -/
def Advances (text : Subject) (body : Spot → Rest → Option Spot) : Prop :=
  ∀ s k found, body s k = some found → ∃ s', Reaches text s s' ∧ k s' = some found

/-- What is matched next may depend on where the first matcher began. -/
theorem Advances.bind {body : Spot → Rest → Option Spot} {next : Spot → Spot → Rest → Option Spot}
    (advances : Advances text body) (later : ∀ s, Advances text (next s)) :
    Advances text fun s k => body s fun s' => next s s' k := by
  intro s k found matched
  obtain ⟨s', reached, rest⟩ := advances _ _ _ matched
  obtain ⟨s'', reached', ended⟩ := later s _ _ _ rest
  exact ⟨s'', reached.trans reached', ended⟩

/-- A match of a body alone ends at a position that it reaches. -/
theorem Advances.reaches {body : Spot → Rest → Option Spot} (advances : Advances text body)
    (matched : body s some = some s') : Reaches text s s' := by
  obtain ⟨s'', reached, same⟩ := advances _ _ _ matched
  cases same
  exact reached

section Loops

variable {body : Spot → Rest → Option Spot} {min : Nat} {max : Option Nat}

theorem greedyLoop_advances (advances : Advances text body) (fuel count : Nat)
    (last : Option Nat) : Advances text (greedyLoop body min max fuel count last) := by
  induction fuel generalizing count last with
  | zero =>
    intro s k found matched
    cases matched
  | succ fuel ih =>
    intro s k found matched
    rw [greedyLoop] at matched
    split at matched
    · exact advances.bind (fun _ => ih _ _) _ _ _ matched
    split at matched
    · split at matched
      next taken =>
        cases matched
        exact advances.bind (fun s => ih _ (some s.pos)) _ _ _ taken
      next => exact ⟨s, .refl s, matched⟩
    · exact ⟨s, .refl s, matched⟩

theorem lazyLoop_advances (advances : Advances text body) (fuel count : Nat)
    (last : Option Nat) : Advances text (lazyLoop body min max fuel count last) := by
  induction fuel generalizing count last with
  | zero =>
    intro s k found matched
    cases matched
  | succ fuel ih =>
    intro s k found matched
    rw [lazyLoop] at matched
    split at matched
    · exact advances.bind (fun _ => ih _ _) _ _ _ matched
    split at matched
    next ended =>
      cases matched
      exact ⟨s, .refl s, ended⟩
    next =>
      split at matched
      · exact advances.bind (fun s => ih _ (some s.pos)) _ _ _ matched
      · cases matched

theorem possessiveLoop_reaches {s s' : Spot} {body : Spot → Option Spot}
    (reaches : ∀ s s', body s = some s' → Reaches text s s') (fuel count : Nat)
    (last : Option Nat) (matched : possessiveLoop body min max fuel count last s = some s') :
    Reaches text s s' := by
  induction fuel generalizing count last s with
  | zero => cases matched
  | succ fuel ih =>
    rw [possessiveLoop] at matched
    split at matched
    · split at matched
      next round => exact (reaches _ _ round).trans (ih _ _ matched)
      next => cases matched
    split at matched
    · split at matched
      next round => exact (reaches _ _ round).trans (ih _ _ matched)
      next =>
        cases matched
        exact .refl s'
    · cases matched
      exact .refl s'

end Loops

theorem repeatAt_le {folding : Folding} {i length pos stop : Nat}
    (repeated : repeatAt folding text i length pos = some stop) :
    pos ≤ stop ∧ (pos ≤ text.size → stop ≤ text.size) := by
  induction length generalizing i pos with
  | zero =>
    cases repeated
    exact ⟨Nat.le_refl _, id⟩
  | succ length ih =>
    rw [repeatAt] at repeated
    split at repeated
    next p q first second =>
      split at repeated
      · obtain ⟨here, _⟩ := Array.getElem?_eq_some_iff.mp second
        obtain ⟨after, inside⟩ := ih repeated
        exact ⟨by omega, fun _ => inside (by omega)⟩
      · cases repeated
    next => cases repeated

theorem Node.run_advances (text : Subject) (node : Node) : Advances text (node.run text) := by
  induction node with
  | empty => exact fun s k found matched => ⟨s, .refl s, matched⟩
  | fail =>
    intro s k found matched
    cases matched
  | point test =>
    intro s k found matched
    rw [Node.run] at matched
    split at matched
    next p here =>
      split at matched
      · obtain ⟨inside, _⟩ := Array.getElem?_eq_some_iff.mp here
        exact ⟨{ s with pos := s.pos + 1 }, ⟨Nat.le_succ _, fun _ => inside⟩, matched⟩
      · cases matched
    next => cases matched
  | place p =>
    intro s k found matched
    rw [Node.run] at matched
    split at matched
    · exact ⟨s, .refl s, matched⟩
    · cases matched
  | backref group folding =>
    intro s k found matched
    rw [Node.run] at matched
    split at matched
    next => cases matched
    next =>
      split at matched
      next repeated =>
        obtain ⟨later, inside⟩ := repeatAt_le repeated
        exact ⟨_, ⟨later, inside⟩, matched⟩
      next => cases matched
  | seq first second onFirst onSecond =>
    intro s k found matched
    exact onFirst.bind (fun _ => onSecond) _ _ _ matched
  | alt first second onFirst onSecond =>
    intro s k found matched
    rw [Node.run] at matched
    split at matched
    next taken =>
      cases matched
      exact onFirst _ _ _ taken
    next => exact onSecond _ _ _ matched
  | capture group body onBody =>
    intro s k found matched
    obtain ⟨s', reached, ended⟩ := onBody _ _ _ matched
    exact ⟨s'.finish group, ⟨reached.le, reached.inside⟩, ended⟩
  | rep greed min max body onBody =>
    intro s k found matched
    cases greed with
    | greedy => exact greedyLoop_advances onBody _ _ _ _ _ _ matched
    | lazy => exact lazyLoop_advances onBody _ _ _ _ _ _ matched
    | possessive =>
      rw [Node.run] at matched
      split at matched
      next looped =>
        exact ⟨_, possessiveLoop_reaches (fun _ _ => onBody.reaches) _ _ _ looped, matched⟩
      next => cases matched
  | atomic body onBody =>
    intro s k found matched
    rw [Node.run] at matched
    split at matched
    next ended => exact ⟨_, onBody.reaches ended, matched⟩
    next => cases matched
  | look back negated body onBody =>
    intro s k found matched
    cases negated with
    | false =>
      rw [Node.run] at matched
      split at matched
      · cases matched
      split at matched
      next s' _ => exact ⟨{ s' with pos := s.pos }, .of_pos_eq rfl, matched⟩
      next => cases matched
    | true =>
      rw [Node.run] at matched
      split at matched
      · exact ⟨s, .refl s, matched⟩
      split at matched
      next => cases matched
      next => exact ⟨s, .refl s, matched⟩
  | cond group yes no onYes onNo =>
    intro s k found matched
    rw [Node.run] at matched
    split at matched
    · exact onYes _ _ _ matched
    · exact onNo _ _ _ matched

section Search

variable {pattern : Pattern} {start a b : Nat} {advance : Bool}

/-- A match ends no earlier than it begins and inside the text, and one that has to take
something does. -/
theorem endAt?_some (matched : pattern.endAt? text start advance = some b) :
    start ≤ b ∧ (start ≤ text.size → b ≤ text.size) ∧ (advance = true → start < b) := by
  obtain ⟨found, ran, rfl⟩ := Option.map_eq_some_iff.mp matched
  obtain ⟨s', reached, ended⟩ := pattern.node.run_advances text _ _ _ ran
  have le : start ≤ s'.pos := reached.le
  split at ended
  next => cases ended
  next free =>
    cases ended
    refine ⟨le, reached.inside, ?_⟩
    intro bound
    have moved : found.pos ≠ start := by simpa [bound] using free
    omega

/-- What a search finds begins at one of the starts that it tries, and takes something if it
begins at the first of them and has to. -/
theorem firstFrom_some {count : Nat}
    (found : pattern.firstFrom text start advance count = some (a, b)) :
    start ≤ a ∧ a < start + count ∧ a ≤ b ∧ (a ≤ text.size → b ≤ text.size) ∧
      (advance = true → start < b) := by
  induction count generalizing start advance with
  | zero => cases found
  | succ count ih =>
    rw [firstFrom] at found
    split at found
    next stop matched =>
      cases found
      obtain ⟨le, inside, moved⟩ := endAt?_some matched
      exact ⟨Nat.le_refl _, by omega, le, inside, moved⟩
    next =>
      obtain ⟨first, last, le, inside, _⟩ := ih found
      exact ⟨by omega, by omega, le, inside, fun _ => by omega⟩

/-- The matches that follow each other from a start on: each is the first that a search finds,
and the next search begins where it ended. After the last one a search finds none. -/
inductive Succession (pattern : Pattern) (text : Subject) :
    Nat → Bool → List (Nat × Nat) → Prop where
  | done {start : Nat} {advance : Bool}
      (none_left : pattern.firstFrom text start advance (text.size + 1 - start) = none) :
      Succession pattern text start advance []
  | next {start a b : Nat} {advance : Bool} {rest : List (Nat × Nat)}
      (found : pattern.firstFrom text start advance (text.size + 1 - start) = some (a, b))
      (later : Succession pattern text b (a = b) rest) :
      Succession pattern text start advance ((a, b) :: rest)

/-- Each match takes something, or the next one has to: twice what is left of the text, and one,
bounds how many there are. -/
theorem matchesFrom_succession {fuel : Nat} (within : start ≤ text.size)
    (enough : 2 * (text.size - start) + (if advance then 0 else 1) < fuel) :
    Succession pattern text start advance (pattern.matchesFrom text start advance fuel) := by
  induction fuel generalizing start advance with
  | zero => omega
  | succ fuel ih =>
    rw [matchesFrom]
    split
    next none_left => exact .done none_left
    next a b found =>
      obtain ⟨first, last, le, inside, moved⟩ := firstFrom_some found
      have stop : b ≤ text.size := inside (by omega)
      refine .next found (ih stop ?_)
      cases advance with
      | false =>
        simp only [Bool.false_eq_true, if_false, decide_eq_true_eq] at enough ⊢
        split <;> omega
      | true =>
        have further := moved rfl
        simp only [if_true, decide_eq_true_eq] at enough ⊢
        split <;> omega

/-- All matches of a text are the succession from its start on. -/
theorem allMatches_succession (pattern : Pattern) (text : Subject) :
    Succession pattern text 0 false (pattern.allMatches text) :=
  matchesFrom_succession (Nat.zero_le _) (by simp)

end Search

end TextExpr.Pattern
