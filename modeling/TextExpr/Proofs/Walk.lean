import TextExpr.Proofs.Place
import TextExpr.Proofs.Variables

/-!
# Walking a tree

A callback that goes on with the parts of each node it is handed walks the whole tree. It comes to
each place once, to a node before its parts and to a part before the next one, which is the order
of the places as lists of numbers. At the root the mapping itself goes to the parts, so the
callback is handed all nodes but the root; a literal or a variable it is handed itself.
-/
namespace TextExpr.Expr

variable {e r c : Expr} {seen : List Expr}

section Places

/-- The node at a place, if there is one. -/
def at? : Place → Expr → Option Expr
  | [], e => some e
  | i :: p, e => e.children[i]?.bind (at? p)

/-- All places of a tree, each one before those that are greater as lists of numbers. -/
structure IsPreorder (e : Expr) (places : List Place) : Prop where
  ascending : places.Pairwise (· < ·)
  all (p : Place) : p ∈ places ↔ (at? p e).isSome = true

/-- The places in parts that are counted from `i`, and the nodes at them. -/
structure WalksParts (i : Nat) (parts : List Expr) (places : List Place) : Prop where
  ascending : places.Pairwise (· < ·)
  all (p : Place) : p ∈ places ↔
    ∃ j q, p = (i + j) :: q ∧ (parts[j]?.bind (at? q)).isSome = true
  nodes : (parts.flatMap nodes).map some = places.map fun p =>
    parts[p.headD 0 - i]?.bind (at? p.tail)

/-- The places of the first part come before those of the others. -/
theorem WalksParts.cons {i : Nat} {parts : List Expr} {places rest : List Place}
    (first : c.IsPreorder places) (own : c.nodes.map some = places.map (at? · c))
    (others : WalksParts (i + 1) parts rest) :
    WalksParts i (c :: parts) (places.map (i :: ·) ++ rest) where
  ascending := by
    refine List.pairwise_append.mpr ⟨?_, others.ascending, ?_⟩
    · rw [List.pairwise_map]
      exact first.ascending.imp fun less => List.Lex.cons less
    · intro p here p' there
      obtain ⟨q, _, rfl⟩ := List.mem_map.mp here
      obtain ⟨j, q', rfl, _⟩ := (others.all p').mp there
      exact List.Lex.rel (by omega)
  all p := by
    rw [List.mem_append, List.mem_map, others.all]
    constructor
    · rintro (⟨q, inside, rfl⟩ | ⟨j, q, rfl, there⟩)
      · exact ⟨0, q, rfl, (first.all q).mp inside⟩
      · exact ⟨j + 1, q, by rw [Nat.add_assoc, Nat.add_comm 1], there⟩
    · rintro ⟨j, q, rfl, there⟩
      cases j with
      | zero => exact Or.inl ⟨q, (first.all q).mpr there, rfl⟩
      | succ j => exact Or.inr ⟨j, q, by rw [Nat.add_assoc, Nat.add_comm 1], there⟩
  nodes := by
    rw [List.flatMap_cons, List.map_append, List.map_append, own, others.nodes, List.map_map]
    congr 1
    · simp [Function.comp_def]
    · apply List.map_congr_left
      intro p there
      obtain ⟨j, q, rfl, _⟩ := (others.all p).mp there
      have skipped : i + 1 + j - i = j + 1 := by omega
      simp [skipped]

theorem exists_walksParts (i : Nat) (parts : List Expr)
    (each : ∀ c ∈ parts, ∃ places, c.IsPreorder places ∧
      c.nodes.map some = places.map (at? · c)) :
    ∃ places, WalksParts i parts places := by
  induction parts generalizing i with
  | nil => exact ⟨[], List.Pairwise.nil, by simp, rfl⟩
  | cons c parts ih =>
    obtain ⟨first, later⟩ := List.forall_mem_cons.mp each
    obtain ⟨places, preorder, own⟩ := first
    obtain ⟨rest, others⟩ := ih (i + 1) later
    exact ⟨_, others.cons preorder own⟩

/-- The nodes of a tree are those at its places, each place once and in ascending order. -/
theorem exists_preorder (e : Expr) :
    ∃ places, e.IsPreorder places ∧ e.nodes.map some = places.map (at? · e) := by
  induction e using induction_children with
  | step e ih =>
    obtain ⟨places, parts⟩ := exists_walksParts 0 e.children ih
    refine ⟨[] :: places, ⟨?_, ?_⟩, ?_⟩
    · refine List.pairwise_cons.mpr ⟨?_, parts.ascending⟩
      intro p inside
      obtain ⟨j, q, rfl, _⟩ := (parts.all p).mp inside
      exact List.Lex.nil
    · intro p
      rw [List.mem_cons, parts.all]
      cases p with
      | nil => simp [at?]
      | cons i p =>
        simp only [reduceCtorEq, Nat.zero_add, List.cons.injEq, false_or, at?]
        constructor
        · rintro ⟨j, q, ⟨rfl, rfl⟩, there⟩
          exact there
        · intro there
          exact ⟨i, p, ⟨rfl, rfl⟩, there⟩
    · rw [nodes_eq, List.map_cons, List.map_cons, parts.nodes]
      congr 1
      apply List.map_congr_left
      intro p inside
      obtain ⟨j, q, rfl, _⟩ := (parts.all p).mp inside
      simp [at?]

end Places

section Mapping

/-- Mapping by a pure callback puts what it makes of the parts in their places. -/
theorem mapParts_pure (f : Expr → Expr) (compound : e.isTerminal = false) :
    e.mapParts (m := Id) f = e.withParts (e.children.map f) := by
  have parts : e.children.mapM (m := Id) f = e.children.map f := List.mapM_pure
  rw [mapParts_compound _ compound, parts]
  rfl

theorem run_mapM_keeps {σ : Type} {F : Expr → StateM σ Expr}
    (keeps : ∀ c s, ((F c).run s).1 = c) (parts : List Expr) (s : σ) :
    ((parts.mapM F).run s).1 = parts := by
  induction parts generalizing s with
  | nil => rfl
  | cons c parts ih =>
    rw [List.mapM_cons, StateT.run_bind]
    have rest := ih ((F c).run s).2
    exact congrArg₂ List.cons (keeps c s) rest

/-- A callback that gives back what it is handed leaves the tree as it is, whatever else it
does. -/
theorem run_mapParts_keeps {σ : Type} {F : Expr → StateM σ Expr}
    (keeps : ∀ c s, ((F c).run s).1 = c) (e : Expr) (s : σ) :
    ((e.mapParts F).run s).1 = e := by
  cases kind : e.isTerminal with
  | false =>
    have parts := run_mapM_keeps keeps e.children s
    rw [mapParts_compound F kind]
    exact (congrArg e.withParts parts).trans e.withParts_children
  | true =>
    cases e with
    | lit | var => exact keeps _ s
    | _ => cases kind

/-- Of two mappings one after the other the second goes to the parts that the first has made. -/
theorem mapParts_mapParts (f g : Expr → Expr) (compound : e.isTerminal = false) :
    (e.mapParts (m := Id) f).run.mapParts (m := Id) g =
      e.mapParts (m := Id) fun c => g (f c) := by
  have kind : (e.withParts (e.children.map f)).isTerminal = false := by
    rw [isTerminal_withParts, compound]
  rw [mapParts_pure f compound, mapParts_pure _ compound]
  show (e.withParts (e.children.map f)).mapParts (m := Id) g = _
  rw [mapParts_pure g kind, children_withParts_map, List.map_map]
  exact withParts_withParts_map f (g ∘ f) e

end Mapping

section Notes

variable {Q : Expr → Expr → Prop} {F : Expr → Noting Expr}

/-- What a callback makes of a node is related to the node, and its notes have grown by the nodes
of the tree in their order. -/
def NotesNodes (Q : Expr → Expr → Prop) (F : Expr → Noting Expr) (e : Expr) : Prop :=
  ∀ seen, ∃ r, Q e r ∧ (F e).run seen = (r, seen ++ e.nodes)

theorem run_mapM_of_notesNodes {parts : List Expr} (each : ∀ c ∈ parts, NotesNodes Q F c)
    (seen : List Expr) : ∃ made, List.Forall₂ Q parts made ∧
      (parts.mapM F).run seen = (made, seen ++ parts.flatMap nodes) := by
  induction parts generalizing seen with
  | nil => exact ⟨[], .nil, congrArg (Prod.mk []) (List.append_nil seen).symm⟩
  | cons c parts ih =>
    obtain ⟨first, later⟩ := List.forall_mem_cons.mp each
    obtain ⟨r, related, run⟩ := first seen
    obtain ⟨made, others, rest⟩ := ih later (seen ++ c.nodes)
    rw [List.append_assoc, ← List.flatMap_cons] at rest
    refine ⟨r :: made, .cons related others, ?_⟩
    rw [List.mapM_cons, StateT.run_bind, run]
    exact congrArg (fun noted => (r :: noted.1, noted.2)) rest

/-- The mapping of a node with parts hands on the trees of its parts. -/
theorem run_mapParts_of_notesNodes (compound : e.isTerminal = false)
    (each : ∀ c ∈ e.children, NotesNodes Q F c) (seen : List Expr) :
    ∃ made, List.Forall₂ Q e.children made ∧
      (e.mapParts F).run seen = (e.withParts made, seen ++ e.children.flatMap nodes) := by
  obtain ⟨made, related, run⟩ := run_mapM_of_notesNodes each seen
  refine ⟨made, related, ?_⟩
  rw [mapParts_compound F compound]
  exact congrArg (fun noted => (e.withParts noted.1, noted.2)) run

/-- A callback that notes each node, settles what becomes of literals and variables, and goes on
with the parts of any other node. Related parts make related nodes. -/
structure Walks (Q : Expr → Expr → Prop) (F : Expr → Noting Expr) : Prop where
  terminal (e : Expr) (seen : List Expr) (kind : e.isTerminal = true) :
    ∃ r, Q e r ∧ (F e).run seen = (r, seen ++ [e])
  compound (e : Expr) (kind : e.isTerminal = false) : F e = note e >>= fun _ => e.mapParts F
  related (e : Expr) (parts : List Expr) (kind : e.isTerminal = false)
    (each : List.Forall₂ Q e.children parts) : Q e (e.withParts parts)

theorem Walks.notesNodes (walks : Walks Q F) (e : Expr) : NotesNodes Q F e := by
  induction e using induction_children with
  | step e ih =>
    intro seen
    cases kind : e.isTerminal with
    | true =>
      obtain ⟨r, related, run⟩ := walks.terminal e seen kind
      have alone : e.nodes = [e] := by
        cases e with
        | lit | var => rfl
        | _ => cases kind
      exact ⟨r, related, by rw [run, alone]⟩
    | false =>
      obtain ⟨made, related, run⟩ := run_mapParts_of_notesNodes kind ih (seen ++ [e])
      rw [List.append_assoc, List.singleton_append, ← nodes_eq] at run
      exact ⟨_, walks.related e made kind related, by rw [walks.compound e kind]; exact run⟩

/-- The mapping itself notes nothing of the root, unless it hands on the root. -/
theorem Walks.run_mapParts (walks : Walks Q F) (e : Expr) (seen : List Expr) :
    ∃ r, Q e r ∧ (e.mapParts F).run seen =
      (r, seen ++ if e.isTerminal then [e] else e.nodes.tail) := by
  cases kind : e.isTerminal with
  | true =>
    obtain ⟨r, related, run⟩ := walks.terminal e seen kind
    refine ⟨r, related, ?_⟩
    cases e with
    | lit | var => exact run
    | _ => cases kind
  | false =>
    obtain ⟨made, related, run⟩ :=
      run_mapParts_of_notesNodes kind (fun c _ => walks.notesNodes c) seen
    refine ⟨_, walks.related e made kind related, ?_⟩
    rw [run, nodes_eq]
    rfl

section Renaming

/-- A callback that notes each node it is handed, keeps literals, gives variables new names, which
may depend on what it has noted, and goes on with the parts of any other node. -/
structure RenamesNoting (F : Expr → Noting Expr) : Prop where
  lit (s : Span) (v : Value) (seen : List Expr) :
    (F (.lit s v)).run seen = (.lit s v, seen ++ [.lit s v])
  var (s : Span) (name : Text) (seen : List Expr) :
    ∃ name', (F (.var s name)).run seen = (.var s name', seen ++ [.var s name])
  compound (e : Expr) (kind : e.isTerminal = false) : F e = note e >>= fun _ => e.mapParts F

theorem RenamesNoting.walks (renames : RenamesNoting F) : Walks (fun _ _ => True) F where
  terminal e seen kind := by
    cases e with
    | lit s v => exact ⟨_, trivial, renames.lit s v seen⟩
    | var s name =>
      obtain ⟨name', run⟩ := renames.var s name seen
      exact ⟨_, trivial, run⟩
    | _ => cases kind
  compound := renames.compound
  related _ _ _ _ := trivial

theorem renameAllNoting_eq (ρ : Text → Text) (es : List Expr) :
    renameAllNoting ρ es = es.mapM (renameNoting ρ) := by
  induction es with
  | nil => rfl
  | cons e rest ih => rw [renameAllNoting, ih, List.mapM_cons]

theorem renameNoting_compound (ρ : Text → Text) (compound : e.isTerminal = false) :
    renameNoting ρ e = note e >>= fun _ => e.mapParts (renameNoting ρ) := by
  cases e with
  | lit | var => cases compound
  | bin | un | cond | index => rfl
  | call s name args =>
    rw [renameNoting, renameAllNoting_eq]
    rfl

theorem renameNoting_renames (ρ : Text → Text) : RenamesNoting (renameNoting ρ) where
  lit _ _ _ := rfl
  var _ name _ := ⟨ρ name, rfl⟩
  compound _ kind := renameNoting_compound ρ kind

/-- Mapping by a callback that renames and goes on with itself hands on the nodes of the tree in
the order of their places, each place once: of a node with parts all but the node itself, and of
any other node the node itself. So the variables are met as they are listed. A callback that gives
back what it is handed leaves the tree as it is, and two pure mappings of a node with parts are
one mapping by their composition. -/
theorem mapParts_visits (F : Expr → Noting Expr) (renames : RenamesNoting F) (e : Expr) :
    let handed := ((e.mapParts F).run []).2
    (e.isTerminal = true → handed = [e]) ∧
    (e.isTerminal = false → e.nodes = e :: handed) ∧
    (∃ places, e.IsPreorder places ∧ e.nodes.map some = places.map (at? · e)) ∧
    (handed.filterMap occurrence?).map Prod.snd = e.varRefs ∧
    (∀ (σ : Type) (K : Expr → StateM σ Expr), (∀ c s, ((K c).run s).1 = c) →
      ∀ s, ((e.mapParts K).run s).1 = e) ∧
    ∀ f g : Expr → Expr, e.isTerminal = false →
      (e.mapParts (m := Id) f).run.mapParts (m := Id) g =
        e.mapParts (m := Id) fun c => g (f c) := by
  intro handed
  have all : handed = if e.isTerminal then [e] else e.nodes.tail := by
    obtain ⟨r, -, run⟩ := renames.walks.run_mapParts e []
    exact congrArg Prod.snd run
  have terminal (kind : e.isTerminal = true) : handed = [e] := by
    rw [all, kind]
    rfl
  have compound (kind : e.isTerminal = false) : e.nodes = e :: handed := by
    rw [all, kind, nodes_eq]
    rfl
  refine ⟨terminal, compound, exists_preorder e, ?_, ?_, ?_⟩
  · rw [varRefs_eq, occurrences]
    cases kind : e.isTerminal with
    | true =>
      rw [terminal kind]
      cases e with
      | lit | var => rfl
      | _ => cases kind
    | false =>
      rw [compound kind]
      cases e with
      | lit | var => cases kind
      | _ => rfl
  · intro σ K keeps s
    exact run_mapParts_keeps keeps e s
  · intro f g kind
    exact mapParts_mapParts f g kind

/-- A conditional with a call as its test, where one variable stands at three places. -/
theorem mapParts_visits_call :
    let x : Expr := .var ⟨2, 3, 0⟩ "x"
    let e : Expr := .cond ⟨0, 9, 0⟩ (.call ⟨0, 6, 0⟩ "f" [x, .lit ⟨4, 5, 0⟩ ⟨[], none⟩, x])
      (.un ⟨6, 8, 0⟩ .not (.var ⟨7, 8, 0⟩ "y")) x
    let handed := ((e.mapParts (renameNoting fun name => .char 'z' :: name)).run []).2
    let noting : Expr → Noting Expr := fun c => do note c; return c
    let blank : Expr → Expr := fun c => c.replaceVars fun s _ => .var s []
    let negated : Expr → Expr := fun c => .un c.span .not c
    e.nodes = e :: handed ∧
      (handed.filterMap occurrence?).map Prod.snd = ["x", "x", "y", "x"] ∧
      handed.map span = [⟨0, 6, 0⟩, ⟨2, 3, 0⟩, ⟨4, 5, 0⟩, ⟨2, 3, 0⟩, ⟨6, 8, 0⟩, ⟨7, 8, 0⟩,
        ⟨2, 3, 0⟩] ∧
      ((e.mapParts noting).run []).1 = e ∧
      (e.mapParts (m := Id) blank).run.mapParts (m := Id) negated =
        e.mapParts (m := Id) fun c => negated (blank c) := by
  intro x e handed noting blank negated
  obtain ⟨_, visits, _, met, kept, composed⟩ :=
    mapParts_visits _ (renameNoting_renames fun name => .char 'z' :: name) e
  exact ⟨visits rfl, met, rfl, kept _ noting (fun _ _ => rfl) [], composed blank negated rfl⟩

end Renaming

end Notes

end TextExpr.Expr
