import TextExpr.Proofs.Scalar
import TextExpr.Proofs.Conversion

/-!
# Documents read back

The compact text of a document is read as the document, unless a number in it is no number or
infinite: the first such number is what the text is refused for.
-/
namespace TextExpr.Json

variable {x : Json} {rest left : Text} {depth : Nat}

section Items

variable {value : Text → Except Trouble (Json × Text)}

theorem endsNumber_printItems (items : List Json) (left : Text) :
    EndsNumber (printItems items ++ left) := by
  cases items <;> exact endsNumber_char _ (by decide) (by decide) (by decide) (by decide)

theorem length_lt_printItems (items : List Json) : items.length < (printItems items).length := by
  induction items with
  | nil => exact Nat.one_pos
  | cons item items ih =>
    rw [printItems, List.length_cons, List.length_append, List.length_cons]
    omega

/-- The items after a bracket or a comma, up to and with the closing bracket. -/
theorem readItems_print (items : List Json) :
    ∀ {first : Json} {fuel : Nat}, (∀ x ∈ first :: items, ReadsBack value x) →
      items.length < fuel →
      readItems value fuel (first.print ++ (printItems items ++ left)) =
        (forM (first :: items) verdictAll).map fun _ => (first :: items, left) := by
  induction items with
  | nil =>
    intro first fuel back enough
    obtain ⟨fuel, rfl⟩ := Nat.exists_eq_add_one.mpr enough
    rw [readItems, back first List.mem_cons_self _ (endsNumber_printItems _ _), List.forM_cons]
    cases verdictAll first with
    | error trouble => rfl
    | ok _ => rfl
  | cons next items ih =>
    -- a refused item ends the reading, and no item after it is looked at
    intro first fuel back enough
    obtain ⟨fuel, rfl⟩ := Nat.exists_eq_add_one.mpr (Nat.zero_lt_of_lt enough)
    have others := @ih next fuel (fun x member => back x (List.mem_cons_of_mem _ member))
      (Nat.lt_of_succ_lt_succ enough)
    have body := ((opens_print next).append (printItems items ++ left)).skipBlanks
    have comma : skipBlanks (printItems (next :: items) ++ left) =
        .char ',' :: (next.print ++ (printItems items ++ left)) := by
      rw [← List.append_assoc]
      rfl
    rw [readItems, back first List.mem_cons_self _ (endsNumber_printItems _ _), List.forM_cons]
    cases verdictAll first with
    | error trouble => rfl
    | ok _ =>
      simp only [Except.map, bind, Except.bind, comma, body, others]
      cases forM (next :: items) verdictAll with
      | error trouble => rfl
      | ok _ => rfl

theorem endsNumber_printMembers (members : List (Text × Json)) (left : Text) :
    EndsNumber (printMembers members ++ left) := by
  rcases members with _ | ⟨⟨name, v⟩, members⟩ <;>
    exact endsNumber_char _ (by decide) (by decide) (by decide) (by decide)

theorem length_lt_printMembers (members : List (Text × Json)) :
    members.length < (printMembers members).length := by
  induction members with
  | nil => exact Nat.one_pos
  | cons member members ih =>
    rw [printMembers, List.length_append, List.length_append, List.length_cons, List.length_cons]
    omega

theorem readMember_print (name : Text) {x : Json} (back : ReadsBack value x)
    (ends : EndsNumber rest) :
    readMember value (Quoted.encode name ++ .char ':' :: (x.print ++ rest)) =
      (verdictAll x).map fun _ => ((name, x), rest) := by
  have colon : skipBlanks (.char ':' :: (x.print ++ rest)) = .char ':' :: (x.print ++ rest) := rfl
  have body := ((opens_print x).append rest).skipBlanks
  rw [encode_append, readMember, readString_encode]
  simp only [bind, Except.bind, colon, body, back rest ends]
  cases verdictAll x <;> rfl

theorem setMember_of_fresh {found : List (Text × Json)} {name : Text}
    (fresh : name ∉ found.map Prod.fst) : setMember found name x = found ++ [(name, x)] := by
  induction found with
  | nil => rfl
  | cons member found ih =>
    obtain ⟨k, v⟩ := member
    rw [List.map_cons, List.mem_cons, not_or] at fresh
    rw [setMember, if_neg (Ne.symm fresh.1), ih fresh.2]
    rfl

theorem fresh_of_nodup {found members : List (Text × Json)} {name : Text}
    (distinct : ((found ++ (name, x) :: members).map Prod.fst).Nodup) :
    name ∉ found.map Prod.fst := by
  rw [List.map_append, List.nodup_append] at distinct
  intro member
  exact distinct.2.2 name member name List.mem_cons_self rfl

/-- The members after a brace or a comma, up to and with the closing brace. -/
theorem readMembers_print (members : List (Text × Json)) :
    ∀ {found : List (Text × Json)} {name : Text} {first : Json} {fuel : Nat},
      (∀ x ∈ first :: members.map Prod.snd, ReadsBack value x) →
      ((found ++ (name, first) :: members).map Prod.fst).Nodup → members.length < fuel →
      readMembers value found fuel
          (Quoted.encode name ++ .char ':' :: (first.print ++ (printMembers members ++ left))) =
        (forM (first :: members.map Prod.snd) verdictAll).map fun _ =>
          (found ++ (name, first) :: members, left) := by
  induction members with
  | nil =>
    intro found name first fuel back distinct enough
    obtain ⟨fuel, rfl⟩ := Nat.exists_eq_add_one.mpr enough
    rw [readMembers, readMember_print name (back first List.mem_cons_self)
      (endsNumber_printMembers _ _), List.forM_cons]
    cases verdictAll first with
    | error trouble => rfl
    | ok _ =>
      simp only [Except.map, bind, Except.bind, setMember_of_fresh (fresh_of_nodup distinct)]
      rfl
  | cons member members ih =>
    obtain ⟨name', next⟩ := member
    intro found name first fuel back distinct enough
    obtain ⟨fuel, rfl⟩ := Nat.exists_eq_add_one.mpr (Nat.zero_lt_of_lt enough)
    have others := @ih (found ++ [(name, first)]) name' next fuel
      (fun x member => back x (List.mem_cons_of_mem _ member)) (by simpa using distinct)
      (Nat.lt_of_succ_lt_succ enough)
    have comma : skipBlanks (printMembers ((name', next) :: members) ++ left) = .char ',' ::
        (Quoted.encode name' ++ .char ':' :: (next.print ++ (printMembers members ++ left))) := by
      have written : printMembers ((name', next) :: members) ++ left = .char ',' ::
          (Quoted.encode name' ++ .char ':' :: (next.print ++ (printMembers members ++ left))) := by
        simp [printMembers]
      rw [written]
      rfl
    have body : skipBlanks (Quoted.encode name' ++ .char ':' ::
          (next.print ++ (printMembers members ++ left))) =
        Quoted.encode name' ++ .char ':' :: (next.print ++ (printMembers members ++ left)) := by
      rw [encode_append]
      rfl
    rw [readMembers, readMember_print name (back first List.mem_cons_self)
      (endsNumber_printMembers _ _), List.forM_cons]
    cases verdictAll first with
    | error trouble => rfl
    | ok _ =>
      simp only [Except.map, bind, Except.bind, setMember_of_fresh (fresh_of_nodup distinct),
        comma, body, others]
      rw [List.append_assoc, List.singleton_append, List.map_cons]

end Items

theorem readValue_list {body : Text} (opens : Opens body) :
    readValue (depth + 1) (.char '[' :: body) =
      (readItems (readValue depth) (body.length + 1) body).map fun found =>
        (.list found.1, found.2) := by
  have first := opens.skipBlanks
  obtain ⟨p, u, rfl, _, close, _⟩ := opens
  rw [readValue, first]
  split
  next same => exact absurd (List.cons.inj same).1 close
  next => cases readItems (readValue depth) ((p :: u).length + 1) (p :: u) <;> rfl

theorem readValue_obj (name body : Text) :
    readValue (depth + 1) (.char '\x7b' :: (Quoted.encode name ++ body)) =
      (readMembers (readValue depth) [] ((Quoted.encode name ++ body).length + 1)
        (Quoted.encode name ++ body)).map fun found => (.obj found.1, found.2) := by
  obtain ⟨u, quoted⟩ : ∃ u, Quoted.encode name ++ body = .char '"' :: u :=
    ⟨_, encode_append name body⟩
  have body : skipBlanks (.char '"' :: u) = .char '"' :: u := rfl
  rw [quoted, readValue, body]
  split
  next same => cases same
  next =>
    cases readMembers (readValue depth) [] (List.length (.char '"' :: u) + 1) (.char '"' :: u) <;>
      rfl

theorem readsBack_list {items : List Json} (back : ∀ c ∈ items, ReadsBack (readValue depth) c) :
    ReadsBack (readValue (depth + 1)) (.list items) := by
  intro rest _
  rw [verdictAll_eq]
  cases items with
  | nil => rfl
  | cons first items =>
    have written : print (.list (first :: items)) ++ rest =
        .char '[' :: (first.print ++ (printItems items ++ rest)) := by
      simp [print]
    have enough : items.length < (first.print ++ (printItems items ++ rest)).length + 1 := by
      have count := length_lt_printItems items
      simp only [List.length_append]
      omega
    rw [written, readValue_list ((opens_print first).append _), readItems_print items back enough]
    show _ = (forM (first :: items) verdictAll).map _
    cases forM (first :: items) verdictAll <;> rfl

theorem readsBack_obj {members : List (Text × Json)} (distinct : (members.map Prod.fst).Nodup)
    (back : ∀ c ∈ members.map Prod.snd, ReadsBack (readValue depth) c) :
    ReadsBack (readValue (depth + 1)) (.obj members) := by
  intro rest _
  rw [verdictAll_eq]
  cases members with
  | nil => rfl
  | cons member members =>
    obtain ⟨name, first⟩ := member
    have written : print (.obj ((name, first) :: members)) ++ rest = .char '\x7b' ::
        (Quoted.encode name ++ .char ':' :: (first.print ++ (printMembers members ++ rest))) := by
      simp [print]
    have enough : members.length <
        (Quoted.encode name ++ .char ':' ::
          (first.print ++ (printMembers members ++ rest))).length + 1 := by
      have count := length_lt_printMembers members
      simp only [List.length_append, List.length_cons]
      omega
    rw [written, readValue_obj, readMembers_print members back distinct enough]
    show _ = (forM (first :: members.map Prod.snd) verdictAll).map _
    cases forM (first :: members.map Prod.snd) verdictAll <;> rfl

/-- Every document is read back, where the reader may go as deep as the document goes. -/
theorem readsBack_of_depth (formed : x.WellFormed) (shallow : x.depth ≤ depth) :
    ReadsBack (readValue depth) x := by
  -- what stands in a container is one level less deep, as far as the reader goes inside it
  induction x using induction_children generalizing depth with
  | step x ih =>
    have inside : ∀ {depth}, x.depth ≤ depth + 1 →
        ∀ c ∈ x.children, ReadsBack (readValue depth) c := by
      intro depth shallow c part
      have smaller := depth_lt_of_child part
      exact ih c part (formed.child part) (by omega)
    cases x with
    | list items =>
      obtain ⟨depth, rfl⟩ := Nat.exists_eq_add_of_le' (Nat.le_trans (Nat.succ_pos _) shallow)
      exact readsBack_list (inside shallow)
    | obj members =>
      obtain ⟨depth, rfl⟩ := Nat.exists_eq_add_of_le' (Nat.le_trans (Nat.succ_pos _) shallow)
      exact readsBack_obj (formed.distinct members (self_mem_parts _)) (inside shallow)
    | _ => exact readsBack_scalar id formed depth

theorem readWholeText_print (formed : x.WellFormed) (shallow : x.depth ≤ depthLimit) :
    readWholeText x.print = (verdictAll x).map fun _ => x := by
  have back := readsBack_of_depth formed shallow [] endsNumber_nil
  have opens := opens_print x
  have body := opens.skipBlanks
  have noMark : x.print.head? ≠ some (.ofCode 0xFEFF) := by
    obtain ⟨p, u, written, _, _, first⟩ := opens
    rw [written]
    exact fun same => first (Option.some.inj same)
  rw [List.append_nil] at back
  rw [readWholeText, if_neg noMark, body, back]
  cases verdictAll x <;> rfl

/-- The text of a document is read as the document exactly if its numbers are finite, and else
refused for one that is not. -/
theorem read_print (formed : x.WellFormed) (shallow : x.depth ≤ depthLimit) :
    (read x.print = .ok x ↔ x.AllFinite) ∧
      (¬ x.AllFinite → ∃ name, read x.print = .error (.constant name)) := by
  have whole := readWholeText_print formed shallow
  rw [← verdictAll_eq_ok_iff, read, whole]
  cases admitted : verdictAll x with
  | ok _ => exact ⟨⟨fun _ => rfl, fun _ => rfl⟩, fun refused => absurd rfl refused⟩
  | error trouble =>
    obtain ⟨name, rfl⟩ := verdictAll_eq_error admitted
    refine ⟨⟨fun read => ?_, fun impossible => ?_⟩, fun _ => ⟨name, rfl⟩⟩
    · cases read
    · cases impossible

end TextExpr.Json

namespace TextExpr

theorem text_ofJson {x : Json} (noString : ∀ t, x ≠ .str t) : (Value.ofJson x).text = x.print := by
  cases x with
  | str t => exact absurd rfl (noString t)
  | _ => rfl

/-- A value with the text of a document is read as this document or refused. -/
theorem asJson_of_print {v : Value} {x : Json} (text : v.text = x.print) (formed : x.WellFormed)
    (shallow : x.depth ≤ Json.depthLimit) :
    (v.asJson = .ok x ↔ x.AllFinite) ∧
      (¬ x.AllFinite → ∃ cause, v.asJson =
        .error (.conversion v (Text.ofString "json") (some cause))) := by
  obtain ⟨back, refused⟩ := Json.read_print formed shallow
  refine ⟨?_, fun infinite => ?_⟩
  · rw [asJson_eq_ok_iff, text]
    exact back
  · obtain ⟨name, failed⟩ := refused infinite
    exact ⟨.document (.constant name), by rw [Value.asJson, text, failed]⟩

/-- The text of a document that is no string is read as this very document, its numbers and its
names being the same, exactly if all its numbers are finite. Else no document is read. -/
theorem asJson_ofJson (x : Json) (noString : ∀ t, x ≠ .str t) (formed : x.WellFormed)
    (shallow : x.depth ≤ 100) :
    ((Value.ofJson x).asJson = .ok x ↔ x.AllFinite) ∧
      (¬ x.AllFinite → ∃ cause, (Value.ofJson x).asJson =
        .error (.conversion (Value.ofJson x) (Text.ofString "json") (some cause))) := by
  have within : x.depth ≤ Json.depthLimit := Nat.le_trans shallow (by decide)
  exact asJson_of_print (text_ofJson noString) formed within

/-- A name of half a pair and a quote, over a negative zero and an empty list. With an infinite
number beside it, all of it is refused. -/
theorem asJson_ofJson_nested :
    let x : Json := .obj [([.surrogate 5, .char '"'],
      .list [.float (.zero true), .int (-7), .list []]), ([], .null)]
    let y : Json := .list [x, .float (.inf true)]
    (x.WellFormed ∧ x.depth ≤ 100 ∧ (Value.ofJson x).asJson = .ok x) ∧
      (y.WellFormed ∧ y.depth ≤ 100 ∧ ∃ cause, (Value.ofJson y).asJson =
        .error (.conversion (Value.ofJson y) (Text.ofString "json") (some cause))) := by
  intro x y
  have limit : Numeral.digitLimit ≠ 0 := by decide
  have short : 7 < 10 ^ Numeral.digitLimit :=
    Nat.lt_of_lt_of_le (show 7 < 10 by decide) (Nat.le_self_pow limit 10)
  have formedX : x.WellFormed := by
    constructor <;> simp [x, Json.parts, Json.partsOfItems, Json.partsOfMembers, short]
  have formedY : y.WellFormed := by
    constructor <;> simp [y, x, Json.parts, Json.partsOfItems, Json.partsOfMembers, short]
  have finite : x.AllFinite := by
    simp [Json.AllFinite, x, Json.parts, Json.partsOfItems, Json.partsOfMembers, Double.zero,
      Double.IsFinite]
  have infinite : ¬ y.AllFinite := fun all => all (.inf true) (by
    simp [y, Json.parts, Json.partsOfItems])
  have shallowX : x.depth ≤ 100 := by decide
  have shallowY : y.depth ≤ 100 := by decide
  exact ⟨⟨formedX, shallowX, (asJson_ofJson x (by simp [x]) formedX shallowX).1.mpr finite⟩,
    formedY, shallowY, (asJson_ofJson y (by simp [y]) formedY shallowY).2 infinite⟩

end TextExpr
