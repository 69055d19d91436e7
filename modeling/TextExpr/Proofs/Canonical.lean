import TextExpr.Proofs.Erasure

/-!
# Negations outside of indexing

A unary operator is written before its operand and a key behind its container, neither with
parentheses, so `!a[0]` is the text of two trees. In the canonical form of a tree the operator
stands outside of the indexing. The form has no spans, and the text of the tree.
-/
namespace TextExpr.Expr

/-- Indexing of what the unary operators of a container are applied to. -/
def indexInside (key : Expr) : Expr → Expr
  | .un s op e => .un s op (indexInside key e)
  | e => .index .dummy e key

mutual

/-- The tree with dummy spans, each unary operator outside of the indexing around it. -/
def canonical : Expr → Expr
  | .lit _ v => .lit .dummy (.ofText v.text)
  | .var _ name => .var .dummy name
  | .bin _ op l r => .bin .dummy op (canonical l) (canonical r)
  | .un _ op e => .un .dummy op (canonical e)
  | .cond _ c t e => .cond .dummy (canonical c) (canonical t) (canonical e)
  | .index _ c k => indexInside (canonical k) (canonical c)
  | .call _ name args => .call .dummy name (canonicalAll args)

def canonicalAll : List Expr → List Expr
  | [] => []
  | e :: rest => canonical e :: canonicalAll rest

end

theorem canonicalAll_eq (es : List Expr) : canonicalAll es = es.map canonical := by
  induction es with
  | nil => rfl
  | cons e rest ih => rw [canonicalAll, ih, List.map_cons]

/-- A head is a tree that neither begins with an operator nor ends with a key. -/
def isHead : Expr → Bool
  | .un .. => false
  | .index .. => false
  | _ => true

def head : Expr → Expr
  | .un _ _ e => head e
  | .index _ c _ => head c
  | e => e

/-- How many unary operators stand before the head. -/
def negations : Expr → Nat
  | .un _ _ e => negations e + 1
  | .index _ c _ => negations c
  | _ => 0

/-- The keys behind the head, from left to right. -/
def keys : Expr → List Expr
  | .un _ _ e => keys e
  | .index _ c k => keys c ++ [k]
  | _ => []

section Spine

/-- Induction from the head of a tree outwards. -/
@[elab_as_elim]
theorem induction_spine {P : Expr → Prop} (bare : ∀ e, e.isHead = true → P e)
    (negated : ∀ s op e, P e → P (.un s op e)) (indexed : ∀ s c k, P c → P (.index s c k))
    (e : Expr) : P e := by
  induction e using induction_children with
  | step e ih =>
    cases e with
    | un s op e => exact negated s op e (ih e List.mem_cons_self)
    | index s c k => exact indexed s c k (ih c List.mem_cons_self)
    | _ => exact bare _ rfl

variable {e : Expr}

theorem spine_of_isHead (isHead : e.isHead = true) :
    e.head = e ∧ e.negations = 0 ∧ e.keys = [] := by
  cases e with
  | un | index => cases isHead
  | _ => exact ⟨rfl, rfl, rfl⟩

theorem isHead_head (e : Expr) : e.head.isHead = true := by
  induction e using induction_spine with
  | bare e isHead => rw [(spine_of_isHead isHead).1, isHead]
  | negated s op e ih => exact ih
  | indexed s c k ih => exact ih

theorem head_mem_nodes (e : Expr) : e.head ∈ e.nodes := by
  induction e using induction_spine with
  | bare e isHead =>
    rw [(spine_of_isHead isHead).1]
    exact self_mem_nodes e
  | negated s op e ih => exact mem_nodes_of_child List.mem_cons_self ih
  | indexed s c k ih => exact mem_nodes_of_child List.mem_cons_self ih

theorem mem_nodes_of_key {k : Expr} (key : k ∈ e.keys) : k ∈ e.nodes := by
  induction e using induction_spine with
  | bare e isHead =>
    rw [(spine_of_isHead isHead).2.2] at key
    cases key
  | negated s op e ih => exact mem_nodes_of_child List.mem_cons_self (ih key)
  | indexed s c last ih =>
    rcases List.mem_append.mp key with inside | isLast
    · exact mem_nodes_of_child List.mem_cons_self (ih inside)
    · rw [List.mem_singleton.mp isLast]
      exact child_mem_nodes (List.mem_cons_of_mem _ List.mem_cons_self)

/-- A head, indexed with some keys and then negated a number of times. -/
def assemble (head : Expr) (keys : List Expr) : Nat → Expr
  | 0 => keys.foldl (.index .dummy) head
  | n + 1 => .un .dummy .not (assemble head keys n)

theorem indexInside_foldl {head : Expr} (isHead : head.isHead = true) (keys : List Expr)
    (key : Expr) :
    indexInside key (keys.foldl (.index .dummy) head) =
      (keys ++ [key]).foldl (.index .dummy) head := by
  -- what the fold leaves is the head or an index, never a negation
  rw [List.foldl_append]
  rcases List.eq_nil_or_concat' keys with rfl | ⟨keys, last, rfl⟩
  · cases head with
    | un | index => cases isHead
    | _ => rfl
  · rw [List.foldl_append]
    rfl

theorem indexInside_assemble {head : Expr} (isHead : head.isHead = true) (keys : List Expr)
    (key : Expr) (n : Nat) :
    indexInside key (assemble head keys n) = assemble head (keys ++ [key]) n := by
  induction n with
  | zero => exact indexInside_foldl isHead keys key
  | succ n ih => rw [assemble, indexInside, ih, assemble]

theorem isHead_canonical (isHead : e.isHead = true) : e.canonical.isHead = true := by
  cases e with
  | un | index => cases isHead
  | _ => rfl

/-- The only declared operator before an operand is the negation. -/
theorem WellFormed.eq_not {s : Span} {op : UnaryOp} (wf : (Expr.un s op e).WellFormed) :
    op = .not := by
  have declared : op.isDeclared = true := wf _ (self_mem_nodes _)
  cases op with
  | not => rfl
  | undeclared symbol => cases declared

theorem canonical_eq_assemble (wf : e.WellFormed) :
    e.canonical = assemble e.head.canonical (e.keys.map canonical) e.negations := by
  induction e using induction_spine with
  | bare e isHead =>
    obtain ⟨head, negations, keys⟩ := spine_of_isHead isHead
    rw [head, negations, keys]
    rfl
  | negated s op e ih =>
    rw [wf.eq_not, canonical, ih (wf.child List.mem_cons_self)]
    rfl
  | indexed s c k ih =>
    rw [canonical, ih (wf.child List.mem_cons_self),
      indexInside_assemble (isHead_canonical (isHead_head c)), head, keys, negations,
      List.map_append]
    rfl

/-- Trees in a row, each after a point and an opening text and before a closing one. -/
def renderSeries (p : Point) (opening closing : Text) (es : List Expr) : Text :=
  es.flatMap fun e => p :: (opening ++ (e.render ++ closing))

/-- Keys as they are written behind a head. -/
def renderKeys (keys : List Expr) : Text := renderSeries (.char '[') [] [.char ']'] keys

theorem render_eq_spine (wf : e.WellFormed) :
    e.render = List.replicate e.negations (.char '!') ++ (e.head.render ++ renderKeys e.keys) := by
  induction e using induction_spine with
  | bare e isHead =>
    obtain ⟨head, negations, keys⟩ := spine_of_isHead isHead
    rw [head, negations, keys]
    exact (List.append_nil _).symm
  | negated s op e ih =>
    rw [wf.eq_not, render, ih (wf.child List.mem_cons_self), negations, List.replicate_succ]
    rfl
  | indexed s c k ih =>
    rw [render, ih (wf.child List.mem_cons_self)]
    simp [head, keys, negations, renderKeys, renderSeries]

theorem render_indexInside (c k : Expr) :
    (indexInside k c).render = c.render ++ .char '[' :: k.render ++ [.char ']'] := by
  induction c using induction_spine with
  | bare c isHead =>
    cases c with
    | un | index => cases isHead
    | _ => rfl
  | negated s op e ih =>
    rw [indexInside, render, ih, render]
    simp
  | indexed s c k ih => rfl

end Spine

theorem renderArgs_cons (e : Expr) (rest : List Expr) :
    renderArgs (e :: rest) = e.render ++ renderSeries (.char ',') [.char ' '] [] rest := by
  induction rest generalizing e with
  | nil => exact (List.append_nil _).symm
  | cons next rest ih =>
    rw [renderArgs, ih next]
    · simp [renderSeries, Text.ofString]
    · simp

theorem renderSeries_map {f : Expr → Expr} {p : Point} {opening closing : Text} {es : List Expr}
    (same : ∀ e ∈ es, (f e).render = e.render) :
    renderSeries p opening closing (es.map f) = renderSeries p opening closing es := by
  rw [renderSeries, List.flatMap_map]
  exact List.flatMap_congr fun e inside => by rw [same e inside]

theorem renderArgs_map {f : Expr → Expr} {es : List Expr}
    (same : ∀ e ∈ es, (f e).render = e.render) : renderArgs (es.map f) = renderArgs es := by
  cases es with
  | nil => rfl
  | cons e rest =>
    obtain ⟨first, others⟩ := List.forall_mem_cons.mp same
    rw [List.map_cons, renderArgs_cons, renderArgs_cons, first, renderSeries_map others]

/-- Where the operators stand makes no difference to the text. -/
theorem render_canonical (e : Expr) : e.canonical.render = e.render := by
  induction e using induction_children with
  | step e ih =>
    cases e with
    | lit | var => rfl
    | index s c k =>
      have container := ih c List.mem_cons_self
      have key := ih k (List.mem_cons_of_mem _ List.mem_cons_self)
      rw [canonical, render_indexInside, container, key, render]
    | call s name args =>
      have same : ∀ e ∈ args, e.canonical.render = e.render := ih
      rw [canonical, render, render, canonicalAll_eq, renderArgs_map same]
    | bin | un | cond =>
      simp only [children, List.forall_mem_cons] at ih
      simp only [canonical, render, ih]

/-- The container of the index is written with an operator before it. -/
def containerNegated : Expr → Bool
  | .index _ (.un ..) _ => true
  | _ => false

/-- Nowhere in the tree is a negation the container of an index. -/
def IndexesNoNegation (e : Expr) : Prop := ∀ n ∈ e.nodes, n.containerNegated = false

instance (e : Expr) : Decidable e.IndexesNoNegation :=
  inferInstanceAs (Decidable (∀ n ∈ e.nodes, n.containerNegated = false))

theorem canonical_eq_erase {e : Expr} (plain : e.IndexesNoNegation) : e.canonical = e.erase := by
  induction e using induction_children with
  | step e ih =>
    have parts : ∀ c ∈ e.children, c.canonical = c.erase := fun c part =>
      ih c part fun n inside => plain n (mem_nodes_of_child part inside)
    cases e with
    | lit | var => rfl
    | index s c k =>
      have bare : (Expr.index s c k).containerNegated = false := plain _ (self_mem_nodes _)
      have container := parts c List.mem_cons_self
      have key := parts k (List.mem_cons_of_mem _ List.mem_cons_self)
      rw [canonical, container, key, erase]
      cases c with
      | un => cases bare
      | _ => rfl
    | call s name args =>
      have same : ∀ e ∈ args, e.canonical = e.erase := parts
      rw [canonical, erase, canonicalAll_eq, eraseAll_eq, List.map_congr_left same]
    | bin | un | cond =>
      simp only [children, List.forall_mem_cons] at parts
      simp only [canonical, erase, parts]

end TextExpr.Expr
