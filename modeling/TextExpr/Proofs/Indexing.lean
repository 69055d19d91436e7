import TextExpr.Proofs.Failure
import TextExpr.Proofs.Lookup

/-!
# How an access ends

The container is read as a document before its key is looked at. A list is read at a position,
counted from its start only. An object is read by name, and by number only where no member has the
name, so an access to an object never fails. Nothing else can be accessed.
-/
namespace TextExpr

open Json

/-- The plain spelling of a whole number. -/
theorem Numeral.ofInt_eq_ofString (i : Int) : Numeral.ofInt i = Text.ofString (toString i) := by
  have natural : ∀ n : Nat, Numeral.ofNat n = Text.ofString (Nat.repr n) := fun _ => by
    simp [Numeral.ofNat, Text.ofString, Nat.repr]
  cases i with
  | ofNat n => exact natural n
  | negSucc n =>
    have spelled : toString (Int.negSucc n) = "-" ++ Nat.repr (n + 1) := rfl
    rw [spelled, Numeral.ofInt, natural]
    simp [Text.ofString]

/-- How an access to a list ends. A position before the start is outside like one after the end. -/
structure ListAccess (items : List Json) (key : Value) (s : Span)
    (ended : Except Failure Value) : Prop where
  inside {i : Nat} {y : Json} (position : key.asI32 = .ok i) (stands : items[i]? = some y) :
    ended = .ok ((Value.ofJson y).withSpan s)
  outside {i : Int} (position : key.asI32 = .ok i) (out : i < 0 ∨ items.length ≤ i) :
    ended = .ok ⟨Text.ofString "null", some s⟩
  refused {e : EvalError} (other : key.asI32 = .error e) :
    ended = .error (.error e) ∧ ∃ cause, e = .conversion key (Text.ofString "i32") cause

/-- How an access to an object ends: by the name, else by the number, else with null. -/
structure ObjectAccess (members : List (Text × Json)) (key : Value) (s : Span)
    (ended : Except Failure Value) : Prop where
  found : ∃ v, ended = .ok v
  member {y : Json} (named : (key.text, y) ∈ members) : ended = .ok ((Value.ofJson y).withSpan s)
  number {i : Int} {y : Json} (unnamed : key.text ∉ members.map Prod.fst)
    (number : key.asI32 = .ok i) (named : (Text.ofString (toString i), y) ∈ members) :
    ended = .ok ((Value.ofJson y).withSpan s)
  absent (unnamed : key.text ∉ members.map Prod.fst)
    (unnumbered : ∀ i : Int, key.asI32 = .ok i →
      Text.ofString (toString i) ∉ members.map Prod.fst) :
    ended = .ok ⟨Text.ofString "null", some s⟩

/-- How an access ends, by what the container's text is a document of. -/
structure Access (container key : Value) (s : Span) (ended : Except Failure Value) : Prop where
  list {items : List Json} (decoded : container.asJson = .ok (.list items)) :
    ListAccess items key s ended
  object {members : List (Text × Json)} (decoded : container.asJson = .ok (.obj members)) :
    ObjectAccess members key s ended
  scalar {x : Json} (decoded : container.asJson = .ok x) (scalar : x.IsScalar) :
    ended = .error (.error ((EvalError.cannotIndex container.text).within s))
  undecoded {e : EvalError} (refused : container.asJson = .error e) :
    ended = .error (.error e) ∧
      ∃ cause, e = .conversion container (Text.ofString "json") (some cause)

section Ended

variable {container key : Value} {s : Span} {x y : Json} {e : EvalError}

theorem indexValue_scalar (decoded : container.asJson = .ok x) (scalar : x.IsScalar) :
    indexValue s container key = .error ((EvalError.cannotIndex container.text).within s) := by
  rw [indexValue, decoded]
  cases x with
  | list | obj => exact scalar.elim
  | null | bool | int | float | str => rfl

theorem indexValue_noPosition {items : List Json}
    (decoded : container.asJson = .ok (.list items)) (other : key.asI32 = .error e) :
    indexValue s container key = .error e := by
  rw [indexValue, decoded]
  show (key.asI32 >>= fun i => .ok (Value.ofJson (itemAt items i))) = _
  rw [other]
  rfl

theorem Json.exists_item_obj (members : List (Text × Json)) (key : Text) :
    ∃ y, Item (.obj members) key y := by
  by_cases named : key ∈ members.map Prod.fst
  · obtain ⟨⟨_, y⟩, stands, rfl⟩ := List.mem_map.mp named
    exact ⟨y, .member stands⟩
  · by_cases numbered : ∃ i, Numeral.readI32 key = .ok i ∧
        Numeral.ofInt i ∈ members.map Prod.fst
    · obtain ⟨i, number, inside⟩ := numbered
      obtain ⟨⟨name, y⟩, stands, same⟩ := List.mem_map.mp inside
      cases same
      exact ⟨y, .number named number stands⟩
    · exact ⟨.null, .absent named fun i number inside => numbered ⟨i, number, inside⟩⟩

end Ended

namespace Expr

section Index

variable {ctx : Context} {s : Span} {c k : Expr} {d v : Value} {x y : Json}

theorem outcome_index_item (container : c.outcome ctx = .ok d) (key : k.outcome ctx = .ok v)
    (decoded : d.asJson = .ok x) (item : Item x v.text y) :
    (index s c k).outcome ctx = .ok ((Value.ofJson y).withSpan s) := by
  have formed := (read_kept (asJson_eq_ok_iff.mp decoded)).formed
  exact outcome_index container key (indexValue_of_item decoded formed item)

theorem listAccess_outcome {items : List Json} (container : c.outcome ctx = .ok d)
    (key : k.outcome ctx = .ok v) (decoded : d.asJson = .ok (.list items)) :
    ListAccess items v s ((index s c k).outcome ctx) where
  inside position stands :=
    outcome_index_item container key decoded (.inside (asI32_eq_ok_iff.mp position) stands)
  outside position out :=
    outcome_index_item container key decoded (.outside (asI32_eq_ok_iff.mp position) out)
  refused other :=
    ⟨outcome_index_failed container key (indexValue_noPosition decoded other),
      Value.asI32_refused other⟩

theorem objectAccess_outcome {members : List (Text × Json)} (container : c.outcome ctx = .ok d)
    (key : k.outcome ctx = .ok v) (decoded : d.asJson = .ok (.obj members)) :
    ObjectAccess members v s ((index s c k).outcome ctx) where
  found := by
    obtain ⟨y, item⟩ := exists_item_obj members v.text
    exact ⟨_, outcome_index_item container key decoded item⟩
  member named := outcome_index_item container key decoded (.member named)
  number := by
    intro i y unnamed number named
    rw [← Numeral.ofInt_eq_ofString] at named
    exact outcome_index_item container key decoded
      (.number unnamed (asI32_eq_ok_iff.mp number) named)
  absent := by
    intro unnamed unnumbered
    refine outcome_index_item container key decoded (.absent unnamed ?_)
    intro i number
    rw [Numeral.ofInt_eq_ofString]
    exact unnumbered i (asI32_eq_ok_iff.mpr number)

theorem access_outcome (container : c.outcome ctx = .ok d) (key : k.outcome ctx = .ok v) :
    Access d v s ((index s c k).outcome ctx) where
  list decoded := listAccess_outcome container key decoded
  object decoded := objectAccess_outcome container key decoded
  scalar decoded scalar := outcome_index_failed container key (indexValue_scalar decoded scalar)
  undecoded refused :=
    ⟨outcome_index_failed container key (indexValue_undecoded refused),
      Value.asJson_refused refused⟩

/-- Two spellings of one number, neither of them a name in the object, find the same. -/
theorem outcome_index_spelling {k' : Expr} {v' : Value} {i : Int} {members : List (Text × Json)}
    (container : c.outcome ctx = .ok d) (decoded : d.asJson = .ok (.obj members))
    (key : k.outcome ctx = .ok v) (key' : k'.outcome ctx = .ok v')
    (number : v.asI32 = .ok i) (number' : v'.asI32 = .ok i)
    (unnamed : v.text ∉ members.map Prod.fst) (unnamed' : v'.text ∉ members.map Prod.fst) :
    (index s c k).outcome ctx = (index s c k').outcome ctx := by
  have first := objectAccess_outcome (s := s) container key decoded
  have second := objectAccess_outcome (s := s) container key' decoded
  by_cases numbered : Text.ofString (toString i) ∈ members.map Prod.fst
  · obtain ⟨⟨name, y⟩, named, same⟩ := List.mem_map.mp numbered
    cases same
    rw [first.number unnamed number named, second.number unnamed' number' named]
  · have other : ∀ {w : Value}, w.asI32 = .ok i →
        ∀ j, w.asI32 = .ok j → Text.ofString (toString j) ∉ members.map Prod.fst := by
      intro w reads j again
      cases reads.symm.trans again
      exact numbered
    rw [first.absent unnamed (other number), second.absent unnamed' (other number')]

end Index

/-- An access to a value with a value as its key. In an object all spellings of one number that
are no names in it are one key. -/
theorem evaluate_index (env : Env) (source : Option Source) (settings : Settings) (s : Span)
    {c : Expr} {d : Value} (container : (evaluate c env source settings).outcome = .ok d) :
    (∀ k v, (evaluate k env source settings).outcome = .ok v →
      Access d v s (evaluate (.index s c k) env source settings).outcome) ∧
    ∀ members, d.asJson = .ok (.obj members) →
      ∀ k v k' v' i, (evaluate k env source settings).outcome = .ok v →
        (evaluate k' env source settings).outcome = .ok v' →
        v.asI32 = .ok i → v'.asI32 = .ok i →
        v.text ∉ members.map Prod.fst → v'.text ∉ members.map Prod.fst →
        (evaluate (.index s c k) env source settings).outcome =
          (evaluate (.index s c k') env source settings).outcome := by
  refine ⟨fun k v key => access_outcome container key, ?_⟩
  intro members decoded k v k' v' i key key' number number' unnamed unnamed'
  exact outcome_index_spelling container decoded key key' number number' unnamed unnamed'

/-- The object has a member for the number and one for another spelling of it. -/
theorem evaluate_index_spelling :
    let c : Expr := .lit ⟨0, 20, 0⟩ ⟨"\x7b\"7\":true,\"07\":\"x\"\x7d", none⟩
    let key : Text → Expr := fun t => .lit ⟨21, 25, 0⟩ ⟨t, none⟩
    (evaluate (.index ⟨0, 26, 0⟩ c (key "+07")) .empty none {}).outcome =
      .ok ⟨"true", some ⟨0, 26, 0⟩⟩ ∧
    (evaluate (.index ⟨0, 26, 0⟩ c (key "07")) .empty none {}).outcome =
      .ok ⟨"x", some ⟨0, 26, 0⟩⟩ ∧
    (evaluate (.index ⟨0, 26, 0⟩ c (key "+07")) .empty none {}).outcome =
      (evaluate (.index ⟨0, 26, 0⟩ c (key "007")) .empty none {}).outcome := by
  intro c key
  have decoded : ((⟨"\x7b\"7\":true,\"07\":\"x\"\x7d", none⟩ : Value).withSpan ⟨0, 20, 0⟩).asJson =
      .ok (.obj [("7", .bool true), ("07", .str "x")]) := by rfl
  have container : (evaluate c .empty none {}).outcome = .ok _ := outcome_lit
  obtain ⟨access, spelling⟩ := evaluate_index .empty none {} ⟨0, 26, 0⟩ container
  refine ⟨?_, ?_, ?_⟩
  · exact ((access (key "+07") _ outcome_lit).object decoded).number (by decide) rfl
      List.mem_cons_self
  · exact ((access (key "07") _ outcome_lit).object decoded).member
      (List.mem_cons_of_mem _ List.mem_cons_self)
  · exact spelling _ decoded (key "+07") _ (key "007") _ 7 outcome_lit outcome_lit rfl rfl
      (by decide) (by decide)

end Expr

end TextExpr
