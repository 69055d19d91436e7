import TextExpr.Proofs.Decoded
import TextExpr.Proofs.Document
import TextExpr.Proofs.Visit

/-!
# Chained indexing and nested lookup

What stands in a document under a path of keys is told from its items and members alone. A chain
of accesses writes what it finds at each step and reads it again at the next one. It finds what
stands there, unless an infinite number has to be read again.
-/
namespace TextExpr

namespace Json

variable {x y z : Json} {key : Text}

/-- What stands in a list or an object under a key. In an object a name that is the key comes
before one that is the key's number, written plainly. -/
inductive Item : Json → Text → Json → Prop where
  | inside {items : List Json} {key : Text} {i : Nat} {y : Json}
      (position : Numeral.readI32 key = .ok i) (stands : items[i]? = some y) :
      Item (.list items) key y
  | outside {items : List Json} {key : Text} {i : Int} (position : Numeral.readI32 key = .ok i)
      (out : i < 0 ∨ items.length ≤ i) : Item (.list items) key .null
  | member {members : List (Text × Json)} {key : Text} {y : Json} (stands : (key, y) ∈ members) :
      Item (.obj members) key y
  | number {members : List (Text × Json)} {key : Text} {i : Int} {y : Json}
      (missing : key ∉ members.map Prod.fst) (normal : Numeral.readI32 key = .ok i)
      (stands : (Numeral.ofInt i, y) ∈ members) : Item (.obj members) key y
  | absent {members : List (Text × Json)} {key : Text} (missing : key ∉ members.map Prod.fst)
      (missingNumber : ∀ i, Numeral.readI32 key = .ok i →
        Numeral.ofInt i ∉ members.map Prod.fst) : Item (.obj members) key .null

/-- What stands in a document under a path: all before the last step are lists and objects. -/
inductive Lookup : Json → List Text → Json → Prop where
  | here (x : Json) : Lookup x [] x
  | step {x y z : Json} {key : Text} {keys : List Text} (item : Item x key y)
      (rest : Lookup y keys z) : Lookup x (key :: keys) z

theorem member?_of_mem {members : List (Text × Json)} (distinct : (members.map Prod.fst).Nodup)
    (stands : (key, y) ∈ members) : member? members key = some y := by
  induction members with
  | nil => cases stands
  | cons member members ih =>
    obtain ⟨k, v⟩ := member
    rw [List.map_cons, List.nodup_cons] at distinct
    by_cases same : k = key
    · have first : (key, y) = (k, v) := by
        rcases List.mem_cons.mp stands with first | later
        · exact first
        · exact absurd (List.mem_map.mpr ⟨_, later, same.symm⟩) distinct.1
      cases first
      simp [member?]
    · have later : (key, y) ∈ members := by
        rcases List.mem_cons.mp stands with first | later
        · exact absurd (Prod.mk.inj first).1.symm same
        · exact later
      have found := ih distinct.2 later
      simpa [member?, same] using found

theorem member?_of_missing {members : List (Text × Json)} (missing : key ∉ members.map Prod.fst) :
    member? members key = none := by
  have passed : members.find? (fun m => m.1 = key) = none := by
    rw [List.find?_eq_none]
    intro m member same
    exact missing (List.mem_map.mpr ⟨m, member, of_decide_eq_true same⟩)
  rw [member?, passed]
  rfl

theorem Item.child (item : Item x key y) : y ∈ x.children ∨ y = .null := by
  cases item with
  | inside position stands => exact Or.inl (List.mem_of_getElem? stands)
  | outside => exact Or.inr rfl
  | member stands => exact Or.inl (List.mem_map.mpr ⟨_, stands, rfl⟩)
  | number _ _ stands => exact Or.inl (List.mem_map.mpr ⟨_, stands, rfl⟩)
  | absent => exact Or.inr rfl

theorem Item.noString (item : Item x key y) : ∀ t, x ≠ .str t := by
  rintro t rfl
  cases item

theorem allFinite_null : AllFinite .null := by
  intro y inside
  cases List.mem_singleton.mp inside

theorem Item.kept {depth : Nat} (item : Item x key y) (kept : Kept depth x) : Kept depth y := by
  rcases item.child with part | rfl
  · exact kept.child part
  · exact kept_null

theorem Item.allFinite (item : Item x key y) (finite : x.AllFinite) : y.AllFinite := by
  rcases item.child with part | rfl
  · exact finite.child part
  · exact allFinite_null

end Json

open Json

section Access

variable {v k : Value} {s : Span} {x y : Json}

theorem itemAt_inside {items : List Json} {i : Nat} (stands : items[i]? = some y) :
    itemAt items i = y := by
  rw [itemAt, if_neg (by omega), Int.toNat_natCast, stands]
  rfl

theorem itemAt_outside {items : List Json} {i : Int} (out : i < 0 ∨ items.length ≤ i) :
    itemAt items i = .null := by
  by_cases before : i < 0
  · rw [itemAt, if_pos before]
  · have beyond : items.length ≤ i.toNat := by omega
    rw [itemAt, if_neg before, List.getElem?_eq_none beyond]
    rfl

theorem memberAt_of_item {members : List (Text × Json)} (distinct : (members.map Prod.fst).Nodup)
    (item : Item (.obj members) k.text y) : memberAt members k = y := by
  unfold memberAt
  cases item with
  | member stands => rw [member?_of_mem distinct stands]
  | number missing normal stands =>
    rw [member?_of_missing missing]
    simp only [asI32_eq_ok_iff.mpr normal, member?_of_mem distinct stands, Option.getD_some]
  | absent missing missingNumber =>
    rw [member?_of_missing missing]
    cases number : k.asI32 with
    | error e => rfl
    | ok i =>
      have absent := missingNumber i (asI32_eq_ok_iff.mp number)
      simp only [member?_of_missing absent, Option.getD_none]

theorem indexValue_undecoded {e : EvalError} (refused : v.asJson = .error e) :
    indexValue s v k = .error e := by
  rw [indexValue, refused]
  rfl

/-- One access finds what stands under the key. -/
theorem indexValue_of_item (decoded : v.asJson = .ok x) (formed : x.WellFormed)
    (item : Item x k.text y) : indexValue s v k = .ok (.ofJson y) := by
  rw [indexValue, decoded]
  cases x with
  | list items =>
    show (k.asI32 >>= fun i => .ok (Value.ofJson (itemAt items i))) = _
    cases item with
    | inside position stands =>
      rw [asI32_eq_ok_iff.mpr position, ← itemAt_inside stands]
      rfl
    | outside position out =>
      rw [asI32_eq_ok_iff.mpr position, ← itemAt_outside out]
      rfl
  | obj members =>
    have distinct := formed.distinct members (self_mem_parts _)
    rw [← memberAt_of_item distinct item]
    rfl
  | _ => cases item

end Access

namespace Expr

/-- Accesses one after the other, each to what the one before it finds. -/
def chain (container : Expr) (path : List (Span × Expr)) : Expr :=
  path.foldl (fun inner step => .index step.1 inner step.2) container

/-- The keys of a path evaluate to values with these texts. -/
def PathKeys (ctx : Context) (path : List (Span × Expr)) (keys : List Text) : Prop :=
  List.Forall₂ (fun step key => ∃ v, step.2.outcome ctx = .ok v ∧ v.text = key) path keys

/-- The value is what the document is written as. -/
def Shows (v : Value) (x : Json) : Prop := v.text = (Value.ofJson x).text

section Chain

variable {ctx : Context} {container : Expr} {path : List (Span × Expr)} {key : Text}
  {keys : List Text} {v : Value} {x y z : Json} {f : Failure}

theorem chain_cons (container : Expr) (step : Span × Expr) (path : List (Span × Expr)) :
    chain container (step :: path) = chain (.index step.1 container step.2) path := rfl

/-- A failure inside the chain is the failure of the chain. -/
theorem chain_failed (failed : container.outcome ctx = .error f) (path : List (Span × Expr)) :
    (chain container path).outcome ctx = .error f := by
  induction path generalizing container with
  | nil => exact failed
  | cons step path ih =>
    have split : (Expr.index step.1 container step.2).operands = container :: [step.2] := rfl
    exact ih (outcome_of_first_failed split failed)

theorem outcome_index_failed {s : Span} {k : Expr} {key : Value} {e : EvalError}
    (ended : container.outcome ctx = .ok v) (keyEnded : k.outcome ctx = .ok key)
    (refused : indexValue s v key = .error e) :
    (Expr.index s container k).outcome ctx = .error (.error e) :=
  outcome_eq_error_iff.mpr (Or.inr ⟨[v, key], .cons ended (.cons keyEnded .nil),
    by rw [conclude, refused]; rfl⟩)

/-- Where all numbers are finite, what is found shows what is looked up. -/
theorem chain_shows (ended : container.outcome ctx = .ok v) (shows : Shows v x)
    (kept : Kept depthLimit x) (finite : x.AllFinite) (lookup : Lookup x keys z)
    (indices : PathKeys ctx path keys) :
    ∃ w, (chain container path).outcome ctx = .ok w ∧ Shows w z := by
  induction lookup generalizing container path v with
  | here x =>
    cases indices
    exact ⟨v, ended, shows⟩
  | step item rest ih =>
    obtain ⟨step, path, ⟨k, key, rfl⟩, others, rfl⟩ := List.forall₂_cons_right_iff.mp indices
    have text := shows.trans (text_ofJson item.noString)
    have decoded := (asJson_of_print text kept.formed kept.shallow).1.mpr finite
    have found := indexValue_of_item (s := step.1) decoded kept.formed item
    have next := outcome_index (s := step.1) ended key found
    rw [chain_cons]
    exact ih next rfl (item.kept kept) (item.allFinite finite) others

/-- What holds an infinite number is not read again. -/
theorem chain_refused (ended : container.outcome ctx = .ok v) (text : v.text = x.print)
    (kept : Kept depthLimit x) (infinite : ¬ x.AllFinite)
    (indices : PathKeys ctx path (key :: keys)) :
    ∃ cause, (chain container path).outcome ctx =
      .error (.error (.conversion v (Text.ofString "json") (some cause))) := by
  obtain ⟨cause, refused⟩ := (asJson_of_print text kept.formed kept.shallow).2 infinite
  obtain ⟨step, path, ⟨k, keyEnded, rfl⟩, _, rfl⟩ := List.forall₂_cons_right_iff.mp indices
  have notFound := indexValue_undecoded (s := step.1) (k := k) refused
  rw [chain_cons]
  exact ⟨cause, chain_failed (outcome_index_failed ended keyEnded notFound) path⟩

end Chain

/-- A chain of accesses to a text that is decoded finds what stands under the path, if the path
has one step or no number is infinite in what stands at its first step. Else what was found at the
first step is refused as no document. -/
theorem evaluate_chain (env : Env) (source : Option Source) (settings : Settings)
    {container : Expr} {d : Value} {path : List (Span × Expr)} {x y z : Json} {key : Text}
    {keys : List Text} (ended : (evaluate container env source settings).outcome = .ok d)
    (decoded : d.asJson = .ok x) (first : Item x key y) (rest : Lookup y keys z)
    (indices : PathKeys ⟨env, source, settings.trace⟩ path (key :: keys)) :
    ((∃ w, (evaluate (chain container path) env source settings).outcome = .ok w ∧
      w.text = (Value.ofJson z).text) ↔ keys = [] ∨ y.AllFinite) ∧
    (¬ (keys = [] ∨ y.AllFinite) → ∃ w cause, w.text = y.print ∧
      (evaluate (chain container path) env source settings).outcome =
        .error (.error (.conversion w (Text.ofString "json") (some cause)))) := by
  have kept := read_kept (asJson_eq_ok_iff.mp decoded)
  obtain ⟨step, path, ⟨k, keyEnded, rfl⟩, others, rfl⟩ := List.forall₂_cons_right_iff.mp indices
  have found := indexValue_of_item (s := step.1) decoded kept.formed first
  have next := outcome_index (s := step.1) ended keyEnded found
  rw [chain_cons]
  -- what is found first is written, but only a second access reads it again
  by_cases readable : keys = [] ∨ y.AllFinite
  · refine ⟨⟨fun _ => readable, fun _ => ?_⟩, fun unreadable => absurd readable unreadable⟩
    rcases readable with rfl | finite
    · cases rest
      cases others
      exact ⟨_, next, rfl⟩
    · exact chain_shows next rfl (first.kept kept) finite rest others
  · obtain ⟨several, infinite⟩ := not_or.mp readable
    cases rest with
    | here => exact absurd rfl several
    | step second rest =>
      have text : ((Value.ofJson y).withSpan step.1).text = y.print := text_ofJson second.noString
      obtain ⟨cause, failed⟩ := chain_refused next text (first.kept kept) infinite others
      refine ⟨⟨?_, fun good => absurd good readable⟩, fun _ => ⟨_, cause, text, failed⟩⟩
      rintro ⟨w, succeeded, _⟩
      cases succeeded.symm.trans failed

/-- The infinite number stands beside the path, and the first key is written with two zeros. -/
theorem evaluate_chain_beside :
    let d : Value := ⟨"[\x7b\"b\":[\"x\",true]\x7d,1e999]", none⟩
    let y : Json := .obj [("b", .list [.str "x", .bool true])]
    let path : List (Span × Expr) := [(⟨0, 30, 0⟩, .lit ⟨27, 29, 0⟩ ⟨"00", none⟩),
      (⟨0, 35, 0⟩, .lit ⟨31, 34, 0⟩ ⟨"b", none⟩), (⟨0, 38, 0⟩, .lit ⟨36, 37, 0⟩ ⟨"0", none⟩)]
    d.asJson = .ok (.list [y, .float (.inf false)]) ∧ y.AllFinite ∧
    ∃ w, (evaluate (chain (.lit ⟨0, 26, 0⟩ d) path) .empty none {}).outcome = .ok w ∧
      w.text = Text.ofString "x" := by
  intro d y path
  have decoded : (d.withSpan ⟨0, 26, 0⟩).asJson = .ok (.list [y, .float (.inf false)]) := by rfl
  have finite : y.AllFinite := by
    simp [AllFinite, y, parts, partsOfItems, partsOfMembers]
  have first : Item (.list [y, .float (.inf false)]) "00" y := .inside (i := 0) rfl rfl
  have rest : Lookup y ["b", "0"] (.str "x") :=
    .step (.member List.mem_cons_self) (.step (.inside (i := 0) rfl rfl) (.here _))
  have indices : PathKeys ⟨.empty, none, false⟩ path ["00", "b", "0"] :=
    .cons ⟨_, outcome_lit, rfl⟩ (.cons ⟨_, outcome_lit, rfl⟩ (.cons ⟨_, outcome_lit, rfl⟩ .nil))
  have looked := evaluate_chain .empty none {} outcome_lit decoded first rest indices
  exact ⟨decoded, finite, looked.1.mpr (Or.inr finite)⟩

/-- The item is an infinite number, which is written and not read again. -/
theorem chain_infinite :
    let d : Value := ⟨"[[1e999]]", none⟩
    let x : Json := .list [.list [.float (.inf false)]]
    let path : List (Span × Expr) := [(⟨0, 12, 0⟩, .lit ⟨10, 11, 0⟩ ⟨"0", none⟩),
      (⟨0, 15, 0⟩, .lit ⟨13, 14, 0⟩ ⟨"0", none⟩)]
    d.asJson = .ok x ∧ x.Lookup ["0", "0"] (.float (.inf false)) ∧
    (Value.ofJson (.float (.inf false))).text = Text.ofString "Infinity" ∧
    (evaluate (chain (.lit ⟨0, 9, 0⟩ d) path) .empty none {}).outcome =
      .error (.error (.conversion ⟨"[Infinity]", some ⟨0, 12, 0⟩⟩ (Text.ofString "json")
        (some (.document (.constant (Text.ofString "Infinity")))))) := by
  refine ⟨by rfl, ?_, rfl, by decide +kernel⟩
  exact .step (.inside (i := 0) rfl rfl) (.step (.inside (i := 0) rfl rfl) (.here _))

end Expr

end TextExpr
