import Mathlib.Data.List.Basic
import TextExpr.Json
import TextExpr.Numeral

/-!
# The parts of a document

A document and those inside it are listed in the order in which they stand in its text. What is
asked of a document is asked of its parts, and so holds of each document in it.
-/
namespace TextExpr

def Double.IsFinite : Double → Prop
  | .finite .. => True
  | _ => False

instance : (x : Double) → Decidable x.IsFinite
  | .nan => .isFalse id
  | .inf _ => .isFalse id
  | .finite .. => .isTrue trivial

namespace Json

variable {c x y : Json}

def children : Json → List Json
  | .list items => items
  | .obj members => members.map Prod.snd
  | _ => []

theorem sizeOf_lt_of_mem_children (part : c ∈ x.children) : sizeOf c < sizeOf x := by
  cases x with
  | list items =>
    have inside := List.sizeOf_lt_of_mem (show c ∈ items from part)
    simp only [list.sizeOf_spec]
    omega
  | obj members =>
    obtain ⟨⟨name, value⟩, member, rfl⟩ := List.mem_map.mp part
    have inside := List.sizeOf_lt_of_mem member
    simp only [obj.sizeOf_spec]
    simp only [Prod.mk.sizeOf_spec] at inside
    omega
  | _ => cases part

/-- Induction from what stands in a container to the container. -/
@[elab_as_elim]
theorem induction_children {P : Json → Prop} (step : ∀ x, (∀ c ∈ x.children, P c) → P x)
    (x : Json) : P x :=
  step x fun c _part => induction_children step c
termination_by sizeOf x
decreasing_by exact sizeOf_lt_of_mem_children _part

mutual

/-- A document and the documents in it. -/
def parts : Json → List Json
  | .list items => .list items :: partsOfItems items
  | .obj members => .obj members :: partsOfMembers members
  | .null => [.null]
  | .bool b => [.bool b]
  | .int i => [.int i]
  | .float x => [.float x]
  | .str t => [.str t]

def partsOfItems : List Json → List Json
  | [] => []
  | item :: rest => parts item ++ partsOfItems rest

def partsOfMembers : List (Text × Json) → List Json
  | [] => []
  | (_, value) :: rest => parts value ++ partsOfMembers rest

end

theorem partsOfItems_eq (items : List Json) : partsOfItems items = items.flatMap parts := by
  induction items with
  | nil => rfl
  | cons item rest ih => rw [partsOfItems, ih, List.flatMap_cons]

theorem partsOfMembers_eq (members : List (Text × Json)) :
    partsOfMembers members = (members.map Prod.snd).flatMap parts := by
  induction members with
  | nil => rfl
  | cons member rest ih => rw [partsOfMembers, ih, List.map_cons, List.flatMap_cons]

theorem parts_eq (x : Json) : x.parts = x :: x.children.flatMap parts := by
  cases x with
  | list items => rw [parts, partsOfItems_eq, children]
  | obj members => rw [parts, partsOfMembers_eq, children]
  | _ => rfl

theorem self_mem_parts (x : Json) : x ∈ x.parts := by
  rw [parts_eq]
  exact List.mem_cons_self

theorem mem_parts_of_child (part : c ∈ x.children) (inside : y ∈ c.parts) : y ∈ x.parts := by
  rw [parts_eq]
  exact List.mem_cons_of_mem _ (List.mem_flatMap.mpr ⟨c, part, inside⟩)

mutual

/-- How many containers stand inside each other at most. -/
def depth : Json → Nat
  | .list items => depthOfItems items + 1
  | .obj members => depthOfMembers members + 1
  | .null => 0
  | .bool _ => 0
  | .int _ => 0
  | .float _ => 0
  | .str _ => 0

def depthOfItems : List Json → Nat
  | [] => 0
  | item :: rest => max (depth item) (depthOfItems rest)

def depthOfMembers : List (Text × Json) → Nat
  | [] => 0
  | (_, value) :: rest => max (depth value) (depthOfMembers rest)

end

theorem depthOfItems_le_iff {items : List Json} {n : Nat} :
    depthOfItems items ≤ n ↔ ∀ item ∈ items, item.depth ≤ n := by
  induction items with
  | nil => simp [depthOfItems]
  | cons item rest ih =>
    rw [depthOfItems, Nat.max_le, ih, List.forall_mem_cons]

theorem depthOfMembers_le_iff {members : List (Text × Json)} {n : Nat} :
    depthOfMembers members ≤ n ↔ ∀ value ∈ members.map Prod.snd, value.depth ≤ n := by
  induction members with
  | nil => simp [depthOfMembers]
  | cons member rest ih =>
    rw [depthOfMembers, Nat.max_le, ih, List.map_cons, List.forall_mem_cons]

theorem depth_lt_of_child (part : c ∈ x.children) : c.depth < x.depth := by
  cases x with
  | list items => exact Nat.lt_succ_of_le (depthOfItems_le_iff.mp (Nat.le_refl _) c part)
  | obj members => exact Nat.lt_succ_of_le (depthOfMembers_le_iff.mp (Nat.le_refl _) c part)
  | _ => cases part

/-- No number in the document is infinite, and each is a number. -/
def AllFinite (x : Json) : Prop := ∀ y, .float y ∈ x.parts → y.IsFinite

/-- Whole numbers are short enough to be converted, and an object has each name once. -/
structure WellFormed (x : Json) : Prop where
  short : ∀ i, .int i ∈ x.parts → i.natAbs < Nat.pow 10 Numeral.digitLimit
  distinct : ∀ members, .obj members ∈ x.parts → (members.map Prod.fst).Nodup

theorem AllFinite.child (finite : x.AllFinite) (part : c ∈ x.children) : c.AllFinite :=
  fun y inside => finite y (mem_parts_of_child part inside)

theorem WellFormed.child (formed : x.WellFormed) (part : c ∈ x.children) : c.WellFormed where
  short i inside := formed.short i (mem_parts_of_child part inside)
  distinct members inside := formed.distinct members (mem_parts_of_child part inside)

end Json

end TextExpr
