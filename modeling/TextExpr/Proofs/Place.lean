import Mathlib.Data.List.Nodup
import TextExpr.Proofs.Visit

/-!
# Places in a tree

A place says for each step down which part is taken, so that equal nodes at two places are told
apart. The places of a tree are listed as evaluation leaves them: those in a part before the node,
the parts from left to right. How evaluations of the nodes end tells which places are reached.
-/
namespace TextExpr.Expr

abbrev Place := List Nat

mutual

/-- The places in each part, and then the root. -/
def places : Expr → List Place
  | .lit .. => [[]]
  | .var .. => [[]]
  | .bin _ _ l r => (places l).map (0 :: ·) ++ (places r).map (1 :: ·) ++ [[]]
  | .un _ _ e => (places e).map (0 :: ·) ++ [[]]
  | .cond _ c t e =>
    (places c).map (0 :: ·) ++ (places t).map (1 :: ·) ++ (places e).map (2 :: ·) ++ [[]]
  | .index _ c k => (places c).map (0 :: ·) ++ (places k).map (1 :: ·) ++ [[]]
  | .call _ _ args => placesOfParts 0 args ++ [[]]

/-- The places in parts that are counted from `i`. -/
def placesOfParts (i : Nat) : List Expr → List Place
  | [] => []
  | e :: rest => (places e).map (i :: ·) ++ placesOfParts (i + 1) rest

end

theorem places_eq (e : Expr) : e.places = placesOfParts 0 e.children ++ [[]] := by
  cases e <;> simp [places, placesOfParts, children]

theorem placesOfParts_append (i : Nat) (before after : List Expr) :
    placesOfParts i (before ++ after) =
      placesOfParts i before ++ placesOfParts (i + before.length) after := by
  induction before generalizing i with
  | nil => rfl
  | cons e before ih =>
    rw [List.cons_append, placesOfParts, placesOfParts, ih, List.append_assoc, List.length_cons]
    congr 3
    omega

/-- The places in one part stand together. -/
theorem exists_places_of_part {e c : Expr} {i : Nat} (part : e.children[i]? = some c) :
    ∃ before after, e.places = before ++ c.places.map (i :: ·) ++ after := by
  obtain ⟨inside, rfl⟩ := List.getElem?_eq_some_iff.mp part
  have split : e.children = e.children.take i ++ e.children[i] :: e.children.drop (i + 1) := by
    rw [List.getElem_cons_drop, List.take_append_drop]
  have count : (e.children.take i).length = i := List.length_take_of_le (Nat.le_of_lt inside)
  refine ⟨placesOfParts 0 (e.children.take i),
    placesOfParts (i + 1) (e.children.drop (i + 1)) ++ [[]], ?_⟩
  rw [places_eq]
  conv_lhs => rw [split]
  rw [placesOfParts_append, placesOfParts, count]
  simp

theorem exists_of_mem_placesOfParts {i : Nat} {es : List Expr} {p : Place}
    (member : p ∈ placesOfParts i es) : ∃ j q, p = j :: q ∧ i ≤ j := by
  induction es generalizing i with
  | nil => cases member
  | cons e rest ih =>
    rcases List.mem_append.mp member with first | later
    · obtain ⟨q, _, rfl⟩ := List.mem_map.mp first
      exact ⟨i, q, rfl, Nat.le_refl i⟩
    · obtain ⟨j, q, rfl, bound⟩ := ih later
      exact ⟨j, q, rfl, Nat.le_of_succ_le bound⟩

/-- No place is listed twice. -/
theorem places_nodup (e : Expr) : e.places.Nodup := by
  induction e using induction_children with
  | step e ih =>
    have parts : ∀ i es, (∀ c ∈ es, c.places.Nodup) → (placesOfParts i es).Nodup := by
      intro i es each
      induction es generalizing i with
      | nil => exact List.nodup_nil
      | cons c rest ihParts =>
        obtain ⟨first, later⟩ := List.forall_mem_cons.mp each
        have moved : (c.places.map (i :: ·)).Nodup :=
          first.map fun _ _ same => (List.cons.inj same).2
        refine List.nodup_append'.mpr ⟨moved, ihParts (i + 1) later, ?_⟩
        intro p here there
        obtain ⟨q, _, rfl⟩ := List.mem_map.mp here
        obtain ⟨j, _, same, bound⟩ := exists_of_mem_placesOfParts there
        cases same
        omega
    rw [places_eq]
    refine List.nodup_append'.mpr ⟨parts 0 e.children ih, List.nodup_singleton _, ?_⟩
    intro p here there
    obtain ⟨_, _, rfl, _⟩ := exists_of_mem_placesOfParts here
    cases List.mem_singleton.mp there

section Reached

/-! Evaluations end somehow, each node evaluated alone. -/

variable (ends : Expr → Except Failure Value)

def succeeds (e : Expr) : Bool := (ends e).toOption.isSome

/-- The truth value that a test has. -/
def truth? (test : Expr) : Option Bool := (ends test).toOption.bind fun v => v.asBool.toOption

/-- The part is no branch that the test of a conditional leaves out. -/
def takes : Expr → Nat → Bool
  | .cond _ test _ _, 1 => truth? ends test = some true
  | .cond _ test _ _, 2 => truth? ends test = some false
  | _, _ => true

/-- Evaluation goes into the part: all operands before it have values. -/
def goesInto (e : Expr) (i : Nat) : Bool :=
  takes ends e i && (e.operands.take i).all (succeeds ends)

/-- The node at a place, if evaluation comes to it. -/
def reached? : Place → Expr → Option Expr
  | [], e => some e
  | i :: p, e => if goesInto ends e i then e.children[i]?.bind (reached? p) else none

/-- No step to the place goes to a branch that is left out. -/
def outsideLeftOut : Place → Expr → Bool
  | [], _ => true
  | i :: p, e => takes ends e i && e.children[i]?.any (outsideLeftOut p)

theorem reached?_append (p q : Place) (e : Expr) :
    reached? ends (p ++ q) e = (reached? ends p e).bind (reached? ends q) := by
  induction p generalizing e with
  | nil => rfl
  | cons i p ih =>
    rw [List.cons_append, reached?, reached?]
    split
    · rw [Option.bind_assoc]
      exact congrArg _ (funext ih)
    · rfl

theorem exists_part_of_reached {e n : Expr} {i : Nat} {p : Place}
    (comes : reached? ends (i :: p) e = some n) :
    ∃ c, goesInto ends e i = true ∧ e.children[i]? = some c ∧ reached? ends p c = some n := by
  rw [reached?] at comes
  split at comes
  next goes =>
    obtain ⟨c, part, comes⟩ := Option.bind_eq_some_iff.mp comes
    exact ⟨c, goes, part, comes⟩
  next => cases comes

/-- The places in a node that is reached stand together. -/
theorem exists_places_of_reached {p : Place} {e n : Expr} (comes : reached? ends p e = some n) :
    ∃ before after, e.places = before ++ n.places.map (p ++ ·) ++ after := by
  induction p generalizing e with
  | nil =>
    cases comes
    exact ⟨[], [], by simp⟩
  | cons i p ih =>
    obtain ⟨c, _, part, comes⟩ := exists_part_of_reached ends comes
    obtain ⟨before, after, inner⟩ := ih comes
    obtain ⟨first, last, outer⟩ := exists_places_of_part part
    refine ⟨first ++ before.map (i :: ·), after.map (i :: ·) ++ last, ?_⟩
    rw [outer, inner]
    simp

theorem mem_places_of_reached {p : Place} {e n : Expr} (comes : reached? ends p e = some n) :
    p ∈ e.places := by
  obtain ⟨before, after, split⟩ := exists_places_of_reached ends comes
  simp [split, places_eq n]

end Reached

end TextExpr.Expr
