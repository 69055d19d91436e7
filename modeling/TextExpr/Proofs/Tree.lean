import TextExpr.Expr

/-!
# The nodes of a tree

A property that passes from the parts of each node to the node holds of every tree. The nodes
are listed root first, then part by part from left to right.
-/
namespace TextExpr.Expr

theorem sizeOf_lt_of_mem_children {c e : Expr} (part : c ∈ e.children) : sizeOf c < sizeOf e := by
  cases e with
  | lit | var => simp [children] at part
  | bin s op l r =>
    simp only [children, List.mem_cons, List.not_mem_nil, or_false] at part
    simp only [bin.sizeOf_spec]
    rcases part with rfl | rfl <;> omega
  | un s op e =>
    simp only [children, List.mem_singleton] at part
    simp only [un.sizeOf_spec]
    subst part
    omega
  | cond s t y n =>
    simp only [children, List.mem_cons, List.not_mem_nil, or_false] at part
    simp only [cond.sizeOf_spec]
    rcases part with rfl | rfl | rfl <;> omega
  | index s c k =>
    simp only [children, List.mem_cons, List.not_mem_nil, or_false] at part
    simp only [index.sizeOf_spec]
    rcases part with rfl | rfl <;> omega
  | call s name args =>
    have inside := List.sizeOf_lt_of_mem (show c ∈ args from part)
    simp only [call.sizeOf_spec]
    omega

/-- Induction from the parts of a node to the node, whatever its kind. -/
@[elab_as_elim]
theorem induction_children {P : Expr → Prop} (step : ∀ e, (∀ c ∈ e.children, P c) → P e)
    (e : Expr) : P e :=
  step e fun c _part => induction_children step c
termination_by sizeOf e
decreasing_by exact sizeOf_lt_of_mem_children _part

theorem isTerminal_of_child {c e : Expr} (part : c ∈ e.children) : e.isTerminal = false := by
  cases e with
  | lit | var => cases part
  | _ => rfl

mutual

/-- A tree and the trees in it, the root first. -/
def nodes : Expr → List Expr
  | .lit s v => [.lit s v]
  | .var s name => [.var s name]
  | .bin s op l r => .bin s op l r :: (nodes l ++ nodes r)
  | .un s op e => .un s op e :: nodes e
  | .cond s c t e => .cond s c t e :: (nodes c ++ nodes t ++ nodes e)
  | .index s c k => .index s c k :: (nodes c ++ nodes k)
  | .call s name args => .call s name args :: nodesOfAll args

def nodesOfAll : List Expr → List Expr
  | [] => []
  | e :: rest => nodes e ++ nodesOfAll rest

end

theorem nodesOfAll_eq (es : List Expr) : nodesOfAll es = es.flatMap nodes := by
  induction es with
  | nil => rfl
  | cons e rest ih => rw [nodesOfAll, ih, List.flatMap_cons]

theorem nodes_eq (e : Expr) : e.nodes = e :: e.children.flatMap nodes := by
  cases e <;> simp [nodes, children, nodesOfAll_eq]

theorem self_mem_nodes (e : Expr) : e ∈ e.nodes := by
  rw [nodes_eq]
  exact List.mem_cons_self

theorem mem_nodes_of_child {c e n : Expr} (part : c ∈ e.children) (inside : n ∈ c.nodes) :
    n ∈ e.nodes := by
  rw [nodes_eq]
  exact List.mem_cons_of_mem _ (List.mem_flatMap.mpr ⟨c, part, inside⟩)

theorem child_mem_nodes {c e : Expr} (part : c ∈ e.children) : c ∈ e.nodes :=
  mem_nodes_of_child part (self_mem_nodes c)

theorem nodes_subset {e n m : Expr} (hn : n ∈ e.nodes) (hm : m ∈ n.nodes) : m ∈ e.nodes := by
  induction e using induction_children with
  | step e ih =>
    rw [nodes_eq, List.mem_cons, List.mem_flatMap] at hn
    rcases hn with rfl | ⟨c, part, inside⟩
    · exact hm
    · exact mem_nodes_of_child part (ih c part inside)

theorem varRefsOfAll_eq (es : List Expr) : varRefsOfAll es = es.flatMap varRefs := by
  induction es with
  | nil => rfl
  | cons e rest ih => rw [varRefsOfAll, ih, List.flatMap_cons]

theorem mem_varRefs_of_child {c e : Expr} {name : Text} (part : c ∈ e.children)
    (occurs : name ∈ c.varRefs) : name ∈ e.varRefs := by
  cases e with
  | lit | var => cases part
  | bin | un | cond | index =>
    simp only [children, List.mem_cons, List.not_mem_nil, or_false] at part
    rcases part with rfl | rfl | rfl <;> simp [varRefs, occurs]
  | call s name args =>
    rw [varRefs, varRefsOfAll_eq]
    exact List.mem_flatMap.mpr ⟨c, part, occurs⟩

/-- The names of the variables are those of the variable nodes. -/
theorem mem_varRefs_iff {e : Expr} {name : Text} :
    name ∈ e.varRefs ↔ ∃ s, .var s name ∈ e.nodes := by
  constructor
  · intro occurs
    induction e using induction_children with
    | step e ih =>
      have ofChild : (∃ c ∈ e.children, name ∈ c.varRefs) → ∃ s, .var s name ∈ e.nodes := by
        rintro ⟨c, part, occurs⟩
        obtain ⟨s, inside⟩ := ih c part occurs
        exact ⟨s, mem_nodes_of_child part inside⟩
      cases e with
      | lit => cases occurs
      | var s x =>
        rw [List.mem_singleton.mp occurs]
        exact ⟨s, self_mem_nodes _⟩
      | bin | un | cond | index =>
        simp only [varRefs, List.mem_append] at occurs
        exact ofChild (by simpa [children, or_assoc] using occurs)
      | call s callee args =>
        rw [varRefs, varRefsOfAll_eq] at occurs
        exact ofChild (List.mem_flatMap.mp occurs)
  · rintro ⟨s, inside⟩
    induction e using induction_children with
    | step e ih =>
      rw [nodes_eq, List.mem_cons, List.mem_flatMap] at inside
      rcases inside with rfl | ⟨c, part, inside⟩
      · simp [varRefs]
      · exact mem_varRefs_of_child part (ih c part inside)

/-- The parts that are evaluated before the node itself acts: all but the branches of a
conditional. -/
def operands : Expr → List Expr
  | .cond _ c _ _ => [c]
  | e => e.children

theorem operands_subset_children (e : Expr) : e.operands ⊆ e.children := by
  cases e with
  | cond s c t e => simp [operands, children]
  | _ => exact List.Subset.refl _

def operatorDeclared : Expr → Bool
  | .bin _ op _ _ => op.isDeclared
  | .un _ op _ => op.isDeclared
  | _ => true

/-- Every operator of the tree is a declared one. -/
def WellFormed (e : Expr) : Prop := ∀ n ∈ e.nodes, n.operatorDeclared = true

instance (e : Expr) : Decidable e.WellFormed :=
  inferInstanceAs (Decidable (∀ n ∈ e.nodes, n.operatorDeclared = true))

theorem WellFormed.of_mem {e n : Expr} (wf : e.WellFormed) (inside : n ∈ e.nodes) : n.WellFormed :=
  fun m deeper => wf m (nodes_subset inside deeper)

theorem WellFormed.child {e c : Expr} (wf : e.WellFormed) (part : c ∈ e.children) : c.WellFormed :=
  wf.of_mem (child_mem_nodes part)

end TextExpr.Expr
