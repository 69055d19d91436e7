import Mathlib.Data.List.TakeWhile
import TextExpr.Proofs.Figures
import TextExpr.Proofs.Run

/-!
# What reading gives

A document that is read from a text can be written again: no name stands twice in an object, the
whole numbers are short, and containers stand inside each other no deeper than the reader goes.
-/
namespace TextExpr.Json

variable {x : Json} {t left : Text} {depth : Nat}

theorem wellFormed_of_children (short : ∀ i, x = .int i → i.natAbs < Nat.pow 10 Numeral.digitLimit)
    (distinct : ∀ members, x = .obj members → (members.map Prod.fst).Nodup)
    (inside : ∀ c ∈ x.children, c.WellFormed) : x.WellFormed := by
  have split : ∀ {y}, y ∈ x.parts → y = x ∨ ∃ c ∈ x.children, y ∈ c.parts := by
    intro y part
    rw [parts_eq, List.mem_cons, List.mem_flatMap] at part
    exact part
  constructor
  · intro i part
    rcases split part with root | ⟨c, child, part⟩
    · exact short i root.symm
    · exact (inside c child).short i part
  · intro members part
    rcases split part with root | ⟨c, child, part⟩
    · exact distinct members root.symm
    · exact (inside c child).distinct members part

/-- A document that a reader gives which goes `depth` levels deep. -/
structure Kept (depth : Nat) (x : Json) : Prop where
  formed : x.WellFormed
  shallow : x.depth ≤ depth

theorem Kept.child {c : Json} (kept : Kept depth x) (part : c ∈ x.children) : Kept depth c where
  formed := kept.formed.child part
  shallow := Nat.le_trans (Nat.le_of_lt (depth_lt_of_child part)) kept.shallow

/-- Of what holds no documents only a whole number can be too long. -/
theorem kept_leaf (short : ∀ i, x = .int i → i.natAbs < Nat.pow 10 Numeral.digitLimit)
    (flat : x.depth = 0) : Kept depth x where
  formed := by
    refine wellFormed_of_children short ?_ ?_
    · rintro members rfl
      cases flat
    · intro c part
      have shallower := depth_lt_of_child part
      omega
  shallow := flat ▸ Nat.zero_le depth

theorem kept_null : Kept depth .null := kept_leaf (by simp) rfl

theorem kept_list {items : List Json} (each : ∀ x ∈ items, Kept depth x) :
    Kept (depth + 1) (.list items) where
  formed := wellFormed_of_children (fun _ same => by cases same) (fun _ same => by cases same)
    (fun c part => (each c part).formed)
  shallow := Nat.succ_le_succ (depthOfItems_le_iff.mpr fun c part => (each c part).shallow)

theorem kept_obj {members : List (Text × Json)} (distinct : (members.map Prod.fst).Nodup)
    (each : ∀ x ∈ members.map Prod.snd, Kept depth x) : Kept (depth + 1) (.obj members) where
  formed := wellFormed_of_children (fun _ same => by cases same)
    (fun _ same => by cases same; exact distinct) (fun c part => (each c part).formed)
  shallow := Nat.succ_le_succ (depthOfMembers_le_iff.mpr fun c part => (each c part).shallow)

section Numbers

theorem digitValue_lt {p : Point} (digit : p.isDigit = true) : p.digitValue < 10 := by
  cases p with
  | surrogate n => cases digit
  | char c =>
    simp only [Point.isDigit, Char.isDigit, Bool.and_eq_true, decide_eq_true_eq] at digit
    have last : c.toNat ≤ '9'.toNat := UInt32.le_iff_toNat_le.mp digit.2
    have first : '0'.toNat = 48 := rfl
    have ninth : '9'.toNat = 57 := rfl
    rw [Point.digitValue, Point.code_char]
    omega

theorem value_lt {digits : Text} (all : IsDigits digits) :
    Numeral.value digits < Nat.pow 10 digits.length := by
  induction digits using List.reverseRec with
  | nil => exact Nat.one_pos
  | append_singleton digits p ih =>
    have before := ih fun q member => all q (List.mem_append_left _ member)
    have last := digitValue_lt (all p (List.mem_append_right _ List.mem_cons_self))
    have single : Numeral.value [p] = p.digitValue := by
      rw [Numeral.value, List.foldl_cons, Nat.zero_mul, Nat.zero_add]
      rfl
    have power : Nat.pow 10 (digits.length + 1) = Nat.pow 10 digits.length * 10 := rfl
    have tens : Nat.pow 10 1 = 10 := rfl
    rw [Numeral.value_append, single, List.length_append, List.length_singleton, power, tens]
    omega

theorem value_lt_of_length_le {digits : Text} {n : Nat} (all : IsDigits digits)
    (few : digits.length ≤ n) : Numeral.value digits < Nat.pow 10 n :=
  Nat.lt_of_lt_of_le (value_lt all) (Nat.pow_le_pow_right (by decide) few)

theorem natAbs_signed (s : Bool) (n : Nat) : (Numeral.signed s n).natAbs = n := by
  cases s with
  | true => simp [Numeral.signed]
  | false => simp [Numeral.signed]

/-- At most 4300 digits are converted, and so the number has no more of them. -/
theorem readNumber_kept (read : readNumber t = .ok (x, left)) : Kept depth x := by
  obtain ⟨u, numeral, rfl⟩ := isNumeral_of_readNumber read
  cases numeral with
  | int digits _ few =>
    refine kept_leaf ?_ rfl
    intro i same
    rw [← Json.int.inj same, natAbs_signed]
    exact value_lt_of_length_le digits few
  | float => exact kept_leaf (by simp) rfl

end Numbers

theorem kept_literal {w : Text × Json} (member : w ∈ literals) : Kept depth w.2 := by
  simp only [literals, List.mem_cons, List.not_mem_nil, or_false] at member
  rcases member with rfl | rfl | rfl <;> exact kept_leaf (by simp) rfl

theorem readScalar_kept (read : readScalar t = .ok (x, left)) : Kept depth x := by
  unfold readScalar at read
  split at read
  next rest =>
    obtain ⟨⟨s, afterString⟩, _, string⟩ := bind_eq_ok_iff.mp read
    cases string
    exact kept_leaf (by simp) rfl
  next =>
    split at read
    next found literal =>
      cases read
      obtain ⟨w, member, taken⟩ := List.exists_of_findSome?_eq_some literal
      obtain ⟨_, _, same⟩ := Option.map_eq_some_iff.mp taken
      obtain ⟨rfl, -⟩ := Prod.mk.inj same
      exact kept_literal member
    next =>
      split at read
      next => cases read
      next => exact readNumber_kept read

theorem mem_of_setMember {found : List (Text × Json)} {name : Text} {member : Text × Json}
    (inside : member ∈ setMember found name x) : member ∈ found ∨ member.2 = x := by
  induction found with
  | nil =>
    rw [List.mem_singleton.mp inside]
    exact Or.inr rfl
  | cons first found ih =>
    obtain ⟨k, v⟩ := first
    unfold setMember at inside
    split at inside
    · rcases List.mem_cons.mp inside with rfl | old
      · exact Or.inr rfl
      · exact Or.inl (List.mem_cons_of_mem _ old)
    · rcases List.mem_cons.mp inside with rfl | later
      · exact Or.inl List.mem_cons_self
      · exact (ih later).imp (List.mem_cons_of_mem _) id

/-- A member is set where its name stands, or after all others. -/
theorem map_fst_setMember (found : List (Text × Json)) (name : Text) (x : Json) :
    (setMember found name x).map Prod.fst =
      if name ∈ found.map Prod.fst then found.map Prod.fst else found.map Prod.fst ++ [name] := by
  induction found with
  | nil => rfl
  | cons first found ih =>
    obtain ⟨k, v⟩ := first
    by_cases same : k = name
    · simp [setMember, same]
    · have other : name ≠ k := Ne.symm same
      by_cases later : name ∈ found.map Prod.fst
      · rw [if_pos later] at ih
        simp only [setMember, same, if_false, List.map_cons, ih, List.mem_cons, later, or_true,
          if_true]
      · rw [if_neg later] at ih
        simp only [setMember, same, if_false, List.map_cons, ih, List.mem_cons, later, other,
          or_false, List.cons_append]

theorem nodup_setMember {found : List (Text × Json)} (distinct : (found.map Prod.fst).Nodup)
    (name : Text) (x : Json) : ((setMember found name x).map Prod.fst).Nodup := by
  rw [map_fst_setMember]
  split
  next => exact distinct
  next fresh => exact List.nodup_append.mpr ⟨distinct, by simp, by
      intro k member k' single same
      rw [List.mem_singleton.mp single] at same
      exact fresh (same ▸ member)⟩

section Containers

variable {value : Text → Except Trouble (Json × Text)}
  (gives : ∀ {t x left}, value t = .ok (x, left) → Kept depth x)

include gives

theorem readItems_kept {fuel : Nat} {items : List Json}
    (read : readItems value fuel t = .ok (items, left)) : ∀ x ∈ items, Kept depth x := by
  induction fuel generalizing t items left with
  | zero => cases read
  | succ fuel ih =>
    rw [readItems] at read
    obtain ⟨⟨item, afterItem⟩, first, read⟩ := bind_eq_ok_iff.mp read
    have one := gives first
    dsimp only at read
    split at read
    · cases read
      exact fun x member => List.mem_singleton.mp member ▸ one
    · obtain ⟨⟨others, afterOthers⟩, more, read⟩ := bind_eq_ok_iff.mp read
      cases read
      exact List.forall_mem_cons.mpr ⟨one, ih more⟩
    · cases read

theorem readMember_kept {name : Text} (read : readMember value t = .ok ((name, x), left)) :
    Kept depth x := by
  unfold readMember at read
  split at read
  next rest =>
    obtain ⟨⟨s, afterName⟩, _, read⟩ := bind_eq_ok_iff.mp read
    dsimp only at read
    split at read
    · obtain ⟨⟨item, afterItem⟩, found, read⟩ := bind_eq_ok_iff.mp read
      cases read
      exact gives found
    · cases read
  next => cases read

theorem readMembers_kept {fuel : Nat} {found members : List (Text × Json)}
    (distinct : (found.map Prod.fst).Nodup) (each : ∀ x ∈ found.map Prod.snd, Kept depth x)
    (read : readMembers value found fuel t = .ok (members, left)) :
    (members.map Prod.fst).Nodup ∧ ∀ x ∈ members.map Prod.snd, Kept depth x := by
  induction fuel generalizing t found left with
  | zero => cases read
  | succ fuel ih =>
    rw [readMembers] at read
    obtain ⟨⟨⟨name, item⟩, afterMember⟩, first, read⟩ := bind_eq_ok_iff.mp read
    have one := readMember_kept gives first
    have distinct' := nodup_setMember distinct name item
    have each' : ∀ x ∈ (setMember found name item).map Prod.snd, Kept depth x := by
      intro x part
      obtain ⟨member, inside, rfl⟩ := List.mem_map.mp part
      rcases mem_of_setMember inside with old | new
      · exact each _ (List.mem_map_of_mem old)
      · exact new ▸ one
    dsimp only at read
    split at read
    · cases read
      exact ⟨distinct', each'⟩
    · exact ih distinct' each' read
    · cases read

end Containers

theorem readValue_kept (read : readValue depth t = .ok (x, left)) : Kept depth x := by
  induction depth generalizing t x left with
  | zero =>
    unfold readValue at read
    split at read
    · cases read
    · cases read
    · exact readScalar_kept read
  | succ depth ih =>
    unfold readValue at read
    split at read
    · split at read
      · cases read
        exact kept_list (by simp)
      · obtain ⟨⟨items, afterItems⟩, found, read⟩ := bind_eq_ok_iff.mp read
        cases read
        exact kept_list (readItems_kept ih found)
    · split at read
      · cases read
        exact kept_obj (by simp) (by simp)
      · obtain ⟨⟨members, afterMembers⟩, found, read⟩ := bind_eq_ok_iff.mp read
        cases read
        obtain ⟨distinct, each⟩ := readMembers_kept ih (by simp) (by simp) found
        exact kept_obj distinct each
    · exact readScalar_kept read

/-- A document that is read is one that can be written and read again. -/
theorem read_kept (decoded : read t = .ok x) : Kept depthLimit x := by
  have whole := mapError_eq_ok_iff.mp decoded
  unfold readWholeText at whole
  split at whole
  · cases whole
  · obtain ⟨⟨value, afterValue⟩, found, whole⟩ := bind_eq_ok_iff.mp whole
    dsimp only at whole
    split at whole
    · cases whole
      exact readValue_kept found
    · cases whole

end TextExpr.Json
