import TextExpr.Expr.Mapping
import TextExpr.Proofs.Substitution

/-!
# The variables of a tree, one after the other

A tree is its variables, from left to right, in a shape that does not depend on them. Resolving
puts the values of all of them into that shape at once, or refuses the first that has none. It is
the only function that goes from a node to its parts as resolving does.
-/
namespace TextExpr

/-- A traversal of items each of which is refused with the first of its claims that fails. -/
theorem mapM_eq_find? {α β ω ε : Type} {f : α → Except ε β} {claims : α → List ω}
    {fails : ω → Bool} {refusal : ω → ε} {result : α → β} {l : List α}
    (each : ∀ a ∈ l, f a = ((claims a).find? fails).elim (.ok (result a)) (.error ∘ refusal)) :
    l.mapM f = ((l.flatMap claims).find? fails).elim (.ok (l.map result)) (.error ∘ refusal) := by
  induction l with
  | nil => rfl
  | cons a l ih =>
    rw [List.mapM_cons, each a List.mem_cons_self, ih fun b later => each b (.tail a later),
      List.flatMap_cons, List.find?_append]
    cases (claims a).find? fails with
    | some o => rfl
    | none => cases (l.flatMap claims).find? fails <;> rfl

namespace Expr

variable {e r : Expr} {env : Env} {f g : Span → Text → Expr}

/-- Induction from the parts of a node to the node, with one case for all nodes that have parts. -/
@[elab_as_elim]
theorem induction_terminals {P : Expr → Prop} (lit : ∀ s v, P (.lit s v))
    (var : ∀ s name, P (.var s name))
    (compound : ∀ e, e.isTerminal = false → (∀ c ∈ e.children, P c) → P e) (e : Expr) : P e := by
  induction e using induction_children with
  | step e ih =>
    cases e with
    | lit s v => exact lit s v
    | var s name => exact var s name
    | _ => exact compound _ rfl ih

/-- The span and the name of a variable. -/
def occurrence? : Expr → Option (Span × Text)
  | .var s name => some (s, name)
  | _ => none

/-- Each variable of a tree with its span, from left to right, repetitions kept. -/
def occurrences (e : Expr) : List (Span × Text) := e.nodes.filterMap occurrence?

@[simp] theorem occurrences_lit (s : Span) (v : Value) : (lit s v).occurrences = [] := rfl

@[simp] theorem occurrences_var (s : Span) (name : Text) :
    (var s name).occurrences = [(s, name)] := rfl

theorem occurrences_compound (compound : e.isTerminal = false) :
    e.occurrences = e.children.flatMap occurrences := by
  have no_variable : e.occurrence? = none := by
    cases e with
    | var => cases compound
    | _ => rfl
  rw [occurrences, nodes_eq, List.filterMap_cons_none no_variable, List.filterMap_flatMap]
  rfl

theorem varRefs_compound (compound : e.isTerminal = false) :
    e.varRefs = e.children.flatMap varRefs := by
  cases e with
  | lit | var => cases compound
  | bin | un | cond | index => simp [varRefs, children]
  | call s name args => rw [varRefs, varRefsOfAll_eq, children]

theorem varRefs_eq (e : Expr) : e.varRefs = e.occurrences.map Prod.snd := by
  induction e using induction_terminals with
  | lit | var => simp [varRefs]
  | compound e kind ih =>
    rw [varRefs_compound kind, occurrences_compound kind, List.map_flatMap]
    exact List.flatMap_congr ih

mutual

/-- The same shape with `f` in the place of each variable. -/
def replaceVars (f : Span → Text → Expr) : Expr → Expr
  | .lit s v => .lit s v
  | .var s name => f s name
  | .bin s op l r => .bin s op (replaceVars f l) (replaceVars f r)
  | .un s op e => .un s op (replaceVars f e)
  | .cond s c t e => .cond s (replaceVars f c) (replaceVars f t) (replaceVars f e)
  | .index s c k => .index s (replaceVars f c) (replaceVars f k)
  | .call s name args => .call s name (replaceVarsInAll f args)

def replaceVarsInAll (f : Span → Text → Expr) : List Expr → List Expr
  | [] => []
  | e :: rest => replaceVars f e :: replaceVarsInAll f rest

end

@[simp] theorem replaceVars_lit (f : Span → Text → Expr) (s : Span) (v : Value) :
    (lit s v).replaceVars f = .lit s v := rfl

@[simp] theorem replaceVars_var (f : Span → Text → Expr) (s : Span) (name : Text) :
    (var s name).replaceVars f = f s name := rfl

theorem replaceVarsInAll_eq (f : Span → Text → Expr) (es : List Expr) :
    replaceVarsInAll f es = es.map (replaceVars f) := by
  induction es with
  | nil => rfl
  | cons e rest ih => rw [replaceVarsInAll, ih, List.map_cons]

theorem isTerminal_withParts (e : Expr) (parts : List Expr) :
    (e.withParts parts).isTerminal = e.isTerminal := by
  cases e <;> rfl

theorem children_withParts_map (F : Expr → Expr) (e : Expr) :
    (e.withParts (e.children.map F)).children = e.children.map F := by
  cases e <;> rfl

theorem withParts_withParts_map (F : Expr → Expr) (G : Expr → Expr) (e : Expr) :
    (e.withParts (e.children.map F)).withParts (e.children.map G) =
      e.withParts (e.children.map G) := by
  cases e <;> rfl

theorem replaceVars_compound (f : Span → Text → Expr) (compound : e.isTerminal = false) :
    e.replaceVars f = e.withParts (e.children.map (replaceVars f)) := by
  cases e with
  | lit | var => cases compound
  | bin | un | cond | index => rfl
  | call s name args => rw [replaceVars, replaceVarsInAll_eq, withParts, children]

theorem isTerminal_replaceVars (f : Span → Text → Expr) (compound : e.isTerminal = false) :
    (e.replaceVars f).isTerminal = false := by
  rw [replaceVars_compound f compound, isTerminal_withParts, compound]

theorem children_replaceVars (f : Span → Text → Expr) (compound : e.isTerminal = false) :
    (e.replaceVars f).children = e.children.map (replaceVars f) := by
  rw [replaceVars_compound f compound, children_withParts_map]

/-- A tree without variables has no place for anything else. -/
theorem replaceVars_of_closed (closed : e.varRefs = []) : e.replaceVars f = e := by
  induction e using induction_terminals with
  | lit => rfl
  | var => cases closed
  | compound e kind ih =>
    rw [varRefs_compound kind, List.flatMap_eq_nil_iff] at closed
    have same : e.children.map (replaceVars f) = e.children.map id :=
      List.map_congr_left fun c part => ih c part (closed c part)
    rw [replaceVars_compound f kind, same, List.map_id, withParts_children]

theorem replaceVars_replaceVars (e : Expr) :
    (e.replaceVars f).replaceVars g = e.replaceVars fun s name => (f s name).replaceVars g := by
  induction e using induction_terminals with
  | lit | var => rfl
  | compound e kind ih =>
    have parts : (e.children.map (replaceVars f)).map (replaceVars g) =
        e.children.map (replaceVars fun s name => (f s name).replaceVars g) := by
      rw [List.map_map]
      exact List.map_congr_left ih
    rw [replaceVars_compound g (isTerminal_replaceVars f kind), children_replaceVars f kind, parts,
      replaceVars_compound f kind, withParts_withParts_map, replaceVars_compound _ kind]

theorem occurrences_replaceVars (e : Expr) :
    (e.replaceVars f).occurrences = e.occurrences.flatMap fun o => (f o.1 o.2).occurrences := by
  induction e using induction_terminals with
  | lit | var => simp
  | compound e kind ih =>
    rw [occurrences_compound (isTerminal_replaceVars f kind), children_replaceVars f kind,
      List.flatMap_map, occurrences_compound kind, List.flatMap_assoc]
    exact List.flatMap_congr ih

/-- One level of a node is its parts, handed on from left to right, in the places they had. -/
theorem mapParts_compound {m : Type → Type} [Monad m] [LawfulMonad m] (F : Expr → m Expr)
    (compound : e.isTerminal = false) : e.mapParts F = e.withParts <$> e.children.mapM F := by
  cases e with
  | lit | var => cases compound
  | bin | un | cond | index => simp [mapParts, children, withParts]
  | call s name args =>
    rw [mapParts, bind_pure_comp]
    rfl

theorem mapM_congr_of_mem {m : Type → Type} [Monad m] [LawfulMonad m] {α β : Type}
    {F G : α → m β} {l : List α} (same : ∀ a ∈ l, F a = G a) : l.mapM F = l.mapM G := by
  induction l with
  | nil => rfl
  | cons a l ih =>
    rw [List.mapM_cons, List.mapM_cons, same a List.mem_cons_self,
      ih fun b later => same b (.tail a later)]

/-- A function that keeps literals, does something of its own with variables, and goes on with the
parts of any other node. -/
structure Descends {m : Type → Type} [Monad m] (onVar : Span → Text → m Expr)
    (F : Expr → m Expr) : Prop where
  lit : ∀ s v, F (.lit s v) = pure (.lit s v)
  var : ∀ s name, F (.var s name) = onVar s name
  compound : ∀ e, e.isTerminal = false → F e = e.mapParts F

/-- Going from nodes to their parts comes to an end: what is done with variables settles what is
done with every tree. -/
theorem Descends.unique {m : Type → Type} [Monad m] [LawfulMonad m] {onVar : Span → Text → m Expr}
    {F G : Expr → m Expr} (descends : Descends onVar F) (descends' : Descends onVar G) : F = G := by
  funext e
  induction e using induction_terminals with
  | lit s v => rw [descends.lit, descends'.lit]
  | var s name => rw [descends.var, descends'.var]
  | compound e kind ih =>
    rw [descends.compound e kind, descends'.compound e kind, mapParts_compound F kind,
      mapParts_compound G kind, mapM_congr_of_mem ih]

/-- The tree with the values of its variables, as far as they have values. -/
def withValues (env : Env) (e : Expr) : Expr :=
  e.replaceVars fun s name =>
    match env name with
    | some v => .lit s v
    | none => .var s name

def isUnbound (env : Env) (name : Text) : Bool := (env name).isNone

/-- What is said of a variable that has no value. -/
def refuse (o : Span × Text) : EvalError := (EvalError.unknownVariable o.2).within o.1

/-- The first variable that has no value. -/
def firstUnbound? (env : Env) (e : Expr) : Option (Span × Text) :=
  e.occurrences.find? fun o => isUnbound env o.2

/-- Resolving ends in the tree with all values in it, or is refused because of the first variable
that has none, at the span of that variable. -/
theorem resolve_eq (env : Env) (e : Expr) :
    e.resolve env = (e.firstUnbound? env).elim (.ok (e.withValues env)) (.error ∘ refuse) := by
  induction e using induction_terminals with
  | lit => rfl
  | var s name =>
    rw [resolve, withValues, replaceVars_var, firstUnbound?, occurrences_var, List.find?_singleton,
      isUnbound]
    cases env name <;> rfl
  | compound e kind ih =>
    have parts := mapM_eq_find? ih
    rw [← occurrences_compound kind] at parts
    rw [resolve_eq_withParts env kind, parts, withValues, replaceVars_compound _ kind,
      firstUnbound?]
    cases e.occurrences.find? fun o => isUnbound env o.2 <;> rfl

theorem find?_varRefs (env : Env) (e : Expr) :
    e.varRefs.find? (isUnbound env) = (e.firstUnbound? env).map Prod.snd := by
  rw [varRefs_eq, List.find?_map]
  rfl

theorem resolve_eq_ok_iff_withValues :
    e.resolve env = .ok r ↔ (∀ name ∈ e.varRefs, (env name).isSome) ∧ r = e.withValues env := by
  have bound : (∀ name ∈ e.varRefs, (env name).isSome) ↔ e.firstUnbound? env = none := by
    rw [← Option.map_eq_none_iff, ← find?_varRefs, List.find?_eq_none]
    simp [isUnbound, Option.isSome_iff_ne_none]
  rw [resolve_eq, bound]
  cases e.firstUnbound? env <;> simp [eq_comm]

theorem resolve_eq_error_iff {refusal : EvalError} : e.resolve env = .error refusal ↔
    ∃ o, e.firstUnbound? env = some o ∧ refusal = refuse o := by
  rw [resolve_eq]
  cases e.firstUnbound? env <;> simp [eq_comm]

/-- A literal of the value that a variable has, at the span of the variable. -/
def valueAt (env : Env) (s : Span) (name : Text) : Except EvalError Expr :=
  match env name with
  | some v => .ok (.lit s v)
  | none => .error (refuse (s, name))

theorem resolve_descends (env : Env) : Descends (valueAt env) (resolve env) where
  lit := fun _ _ => rfl
  var := fun s name => by
    rw [resolve, valueAt]
    rfl
  compound := fun e kind => by
    rw [mapParts_compound (resolve env) kind, resolve_eq_withParts env kind]
    rfl

/-- With all values in it a tree has no variable left. -/
theorem varRefs_withValues (bound : ∀ name ∈ e.varRefs, (env name).isSome) :
    (e.withValues env).varRefs = [] := by
  rw [varRefs_eq, withValues, occurrences_replaceVars, List.map_eq_nil_iff, List.flatMap_eq_nil_iff]
  intro o inside
  have occurs : o.2 ∈ e.varRefs := by
    rw [varRefs_eq]
    exact List.mem_map_of_mem inside
  obtain ⟨v, found⟩ := Option.isSome_iff_exists.mp (bound o.2 occurs)
  simp only [found, occurrences_lit]

/-- Resolving is substitution of all variables at once. It succeeds exactly if each name has a
value. The result has a literal of the value in the place of each variable and is otherwise the
same; no variable is left in it, and resolving it again changes nothing. A refusal names the first
name without a value, at the span of its first variable, and is wrapped in that span alone. The
way down through the parts of nodes ends for each tree, so nothing else resolves as they do. -/
theorem resolve_substitutes (e : Expr) (env : Env) :
    ((∃ r, e.resolve env = .ok r) ↔ ∀ name ∈ e.varRefs, (env name).isSome) ∧
    (∀ r, e.resolve env = .ok r →
      r = e.withValues env ∧ r.varRefs = [] ∧ ∀ env', r.resolve env' = .ok r) ∧
    (∀ refusal, e.resolve env = .error refusal → ∃ s name,
      e.varRefs.find? (isUnbound env) = some name ∧
      (e.occurrences.find? fun o => isUnbound env o.2) = some (s, name) ∧
      refusal = .spanned s (.unknownVariable name)) ∧
    ∀ F, Descends (valueAt env) F ↔ F = resolve env := by
  refine ⟨?_, ?_, ?_, ?_⟩
  · constructor
    · rintro ⟨r, resolved⟩
      exact (resolve_eq_ok_iff_withValues.mp resolved).1
    · intro bound
      exact ⟨_, resolve_eq_ok_iff_withValues.mpr ⟨bound, rfl⟩⟩
  · intro r resolved
    obtain ⟨bound, rfl⟩ := resolve_eq_ok_iff_withValues.mp resolved
    have closed := varRefs_withValues bound
    refine ⟨rfl, closed, ?_⟩
    intro env'
    refine resolve_eq_ok_iff_withValues.mpr ⟨?_, (replaceVars_of_closed closed).symm⟩
    intro name occurs
    rw [closed] at occurs
    cases occurs
  · intro refusal refused
    obtain ⟨⟨s, name⟩, first, rfl⟩ := resolve_eq_error_iff.mp refused
    refine ⟨s, name, ?_, first, rfl⟩
    rw [find?_varRefs, first]
    rfl
  · intro F
    constructor
    · intro descends
      exact descends.unique (resolve_descends env)
    · rintro rfl
      exact resolve_descends env

/-- The second of three variables has no value, and the third is another one of the first name. -/
theorem resolve_substitutes_missing :
    let e : Expr := .call ⟨0, 14, 0⟩ "f" [.un ⟨2, 4, 0⟩ .not (.var ⟨3, 4, 0⟩ "a"),
      .index ⟨6, 13, 0⟩ (.var ⟨6, 10, 0⟩ "b") (.var ⟨11, 12, 0⟩ "a")]
    let env : Env := .ofList [("a", ⟨"1", none⟩)]
    let env' : Env := .ofList [("b", ⟨"[]", none⟩), ("a", ⟨"1", none⟩)]
    (∃ refusal, e.resolve env = .error refusal ∧
      refusal = .spanned ⟨6, 10, 0⟩ (.unknownVariable "b")) ∧
    ∃ r, e.resolve env' = .ok r ∧ r = e.withValues env' ∧ r.varRefs = [] ∧
      r.resolve .empty = .ok r := by
  intro e env env'
  constructor
  · cases resolved : e.resolve env with
    | ok r =>
      have bound := (resolve_substitutes e env).1.mp ⟨r, resolved⟩
      cases bound "b" (by decide +kernel)
    | error refusal =>
      obtain ⟨s, name, _, first, wrapped⟩ := (resolve_substitutes e env).2.2.1 refusal resolved
      have found : (e.occurrences.find? fun o => isUnbound env o.2) =
          some (⟨6, 10, 0⟩, Text.ofString "b") := by decide +kernel
      cases first.symm.trans found
      exact ⟨refusal, rfl, wrapped⟩
  · have bound : ∀ name ∈ e.varRefs, (env' name).isSome := by decide +kernel
    obtain ⟨r, resolved⟩ := (resolve_substitutes e env').1.mpr bound
    obtain ⟨filled, closed, again⟩ := (resolve_substitutes e env').2.1 r resolved
    exact ⟨r, resolved, filled, closed, again .empty⟩

end Expr

end TextExpr
