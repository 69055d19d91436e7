import TextExpr.Proofs.Legibility

/-!
# The text of a tree determines its canonical form

Where two trees begin the same text, before points that continue no tree, their heads are the same
and so are the numbers of negations before and the keys behind them. So the trees differ at most in
spans, and in whether a negation stands inside of an indexing or outside of it.
-/
namespace TextExpr.Expr

section Cancellation

variable {e e' : Expr} {t u : Text}

/-- Before points that continue no operand, a legible tree that begins the same text is the same
but for spans and the place of negations. -/
def Cancels (e : Expr) : Prop :=
  ∀ (e' : Expr) (t u : Text), e'.Legible → NotFirst continuesOperand t →
    NotFirst continuesOperand u → e.render ++ t = e'.render ++ u →
    e.canonical = e'.canonical ∧ t = u

/-- The same of heads alone, which may have keys behind them. -/
def CancelsHead (e : Expr) : Prop :=
  ∀ (e' : Expr) (t u : Text), e'.Legible → e'.isHead = true → NotFirst continuesName t →
    NotFirst continuesName u → e.render ++ t = e'.render ++ u → e.canonical = e'.canonical ∧ t = u

section Series

variable {p : Point} {opening : Text} (closing : Text)

/-- What stands behind the first tree of a series, or behind the last one, ends an operand. -/
theorem ends_series (es : List Expr)
    (next : ∀ rest, NotFirst continuesOperand (closing ++ p :: rest))
    (ends : NotFirst continuesOperand (closing ++ t)) :
    NotFirst continuesOperand (closing ++ (renderSeries p opening closing es ++ t)) := by
  cases es with
  | nil => exact ends
  | cons e es => exact next _

theorem series_cancels {es es' : List Expr} (parts : ∀ e ∈ es, e.Cancels)
    (legible : ∀ e ∈ es', e.Legible)
    (next : ∀ rest, NotFirst continuesOperand (closing ++ p :: rest))
    (ends : NotFirst continuesOperand (closing ++ t)) (stops : NotFirst (· == p) t)
    (ends' : NotFirst continuesOperand (closing ++ u)) (stops' : NotFirst (· == p) u)
    (same : renderSeries p opening closing es ++ t = renderSeries p opening closing es' ++ u) :
    es.map canonical = es'.map canonical ∧ t = u := by
  induction es generalizing es' with
  | nil =>
    cases es' with
    | nil => exact ⟨rfl, same⟩
    | cons e' es' => exact absurd same stops.ne_cons
  | cons e es ih =>
    cases es' with
    | nil => exact absurd same.symm stops'.ne_cons
    | cons e' es' =>
      obtain ⟨first, others⟩ := List.forall_mem_cons.mp parts
      obtain ⟨legible', legibles⟩ := List.forall_mem_cons.mp legible
      -- the opening text is cancelled, then the first tree, then the closing text
      simp only [renderSeries, List.flatMap_cons, List.cons_append, List.append_assoc,
        List.cons.injEq, true_and, List.append_cancel_left_eq] at same
      obtain ⟨tree, rest⟩ := first e' _ _ legible' (ends_series closing es next ends)
        (ends_series closing es' next ends') same
      obtain ⟨trees, rest⟩ := ih others legibles (List.append_cancel_left rest)
      exact ⟨by rw [List.map_cons, List.map_cons, tree, trees], rest⟩

end Series

theorem keys_cancel {ks ks' : List Expr} (parts : ∀ k ∈ ks, k.Cancels)
    (legible : ∀ k ∈ ks', k.Legible) (ends : NotFirst continuesOperand t)
    (ends' : NotFirst continuesOperand u)
    (same : renderKeys ks ++ t = renderKeys ks' ++ u) :
    ks.map canonical = ks'.map canonical ∧ t = u := by
  have stops : ∀ {t : Text}, NotFirst continuesOperand t → NotFirst (· == .char '[') t := by
    intro t ends p first
    have neither := ends p first
    rw [continuesOperand, Bool.or_eq_false_iff] at neither
    exact neither.2
  exact series_cancels [.char ']'] parts legible (fun rest => ends_bracket _) (ends_bracket t)
    (stops ends) (ends_bracket u) (stops ends') same

theorem args_cancel {args args' : List Expr} (legible : ∀ e ∈ args, e.Legible)
    (legible' : ∀ e ∈ args', e.Legible) (parts : ∀ e ∈ args, e.Cancels)
    (same : renderArgs args ++ .char ')' :: t = renderArgs args' ++ .char ')' :: u) :
    args.map canonical = args'.map canonical ∧ t = u := by
  have stops : ∀ t, NotFirst (· == .char ',') (.char ')' :: t) :=
    fun t => notFirst_cons (by decide)
  cases args with
  | nil =>
    cases args' with
    | nil => exact ⟨rfl, (List.cons.inj same).2⟩
    | cons e' rest' => exact absurd same.symm (renderArgs_ne_close (legible' e' List.mem_cons_self))
  | cons e rest =>
    cases args' with
    | nil => exact absurd same (renderArgs_ne_close (legible e List.mem_cons_self))
    | cons e' rest' =>
      obtain ⟨first, others⟩ := List.forall_mem_cons.mp parts
      obtain ⟨firstLegible, othersLegible⟩ := List.forall_mem_cons.mp legible'
      rw [renderArgs_cons, renderArgs_cons, List.append_assoc, List.append_assoc] at same
      obtain ⟨tree, same⟩ := first e' _ _ firstLegible
        (ends_series [] rest ends_comma (ends_close t))
        (ends_series [] rest' ends_comma (ends_close u)) same
      obtain ⟨trees, same⟩ := series_cancels [] others othersLegible ends_comma (ends_close t)
        (stops t) (ends_close u) (stops u) same
      exact ⟨by rw [List.map_cons, List.map_cons, tree, trees], (List.cons.inj same).2⟩

theorem cancelsHead_lit {s : Span} {v : Value} (legible : (Expr.lit s v).isLegible = true) :
    CancelsHead (.lit s v) := by
  intro e' t u legible' isHead' _ _ same
  have marks : some (.char '"') = e'.mark := mark_eq legible rfl legible'.self isHead' same
  cases e' with
  | lit s' v' =>
    obtain ⟨texts, rest⟩ := Json.encodeAscii_append_inj legible legible'.self same
    exact ⟨by rw [canonical, canonical, texts], rest⟩
  | _ => cases marks

theorem cancelsHead_var {s : Span} {name : Text} (legible : (Expr.var s name).isLegible = true) :
    CancelsHead (.var s name) := by
  intro e' t u legible' isHead' ends ends' same
  have marks : none = e'.mark := mark_eq legible rfl legible'.self isHead' same
  have word := (isName_iff.mp legible).2.1
  cases e' with
  | un | index => cases isHead'
  | lit | bin | cond => cases marks
  | var s' name' =>
    have word' := (isName_iff.mp legible'.self).2.1
    obtain ⟨names, rest⟩ := append_inj_of_run word word' ends.of_name ends'.of_name same
    exact ⟨by rw [canonical, canonical, names], rest⟩
  | call s' name' args =>
    have word' := (isName_iff.mp legible'.self).2.1
    rw [render_call_append] at same
    obtain ⟨_, rfl⟩ := append_inj_of_run word word' ends.of_name (opens_args _) same
    exact absurd ends (not_ends_args _)

theorem cancelsHead_call {s : Span} {name : Text} {args : List Expr}
    (legible : (Expr.call s name args).Legible) (parts : ∀ e ∈ args, e.Cancels) :
    CancelsHead (.call s name args) := by
  intro e' t u legible' isHead' ends ends' same
  have marks : none = e'.mark := mark_eq legible.self rfl legible'.self isHead' same
  have word := (isName_iff.mp legible.self).2.1
  rw [render_call_append] at same
  cases e' with
  | un | index => cases isHead'
  | lit | bin | cond => cases marks
  | var s' name' =>
    have word' := (isName_iff.mp legible'.self).2.1
    obtain ⟨_, rfl⟩ := append_inj_of_run word word' (opens_args _) ends'.of_name same
    exact absurd ends' (not_ends_args _)
  | call s' name' args' =>
    have word' := (isName_iff.mp legible'.self).2.1
    rw [render_call_append] at same
    obtain ⟨names, same⟩ := append_inj_of_run word word' (opens_args _) (opens_args _) same
    have legibles : ∀ e ∈ args, e.Legible := fun e part => legible.child part
    have legibles' : ∀ e ∈ args', e.Legible := fun e part => legible'.child part
    obtain ⟨arguments, rest⟩ := args_cancel legibles legibles' parts (List.cons.inj same).2
    exact ⟨by rw [canonical, canonical, canonicalAll_eq, canonicalAll_eq, names, arguments], rest⟩

theorem noSpace_symbol {op : BinOp} (declared : op.isDeclared = true) :
    ∀ p ∈ op.symbol, (p != .char ' ') = true := by
  cases op with
  | undeclared symbol => cases declared
  | _ => decide

theorem cancelsHead_bin {s : Span} {op : BinOp} {l r : Expr}
    (legible : (Expr.bin s op l r).Legible) (left : l.Cancels) (right : r.Cancels) :
    CancelsHead (.bin s op l r) := by
  intro e' t u legible' isHead' _ _ same
  have marks : some (.char '(') = e'.mark := mark_eq legible.self rfl legible'.self isHead' same
  rw [render_bin_append] at same
  cases e' with
  | lit | var | un | index | call => cases marks
  | bin s' op' l' r' =>
    rw [render_bin_append] at same
    have parts : ∀ c ∈ (Expr.bin s' op' l' r').children, c.Legible :=
      fun c part => legible'.child part
    simp only [children, List.forall_mem_cons] at parts
    obtain ⟨leftLegible, rightLegible, _⟩ := parts
    obtain ⟨_, rest⟩ := List.cons.inj same
    obtain ⟨lefts, rest⟩ := left l' _ _ leftLegible (ends_space _) (ends_space _) rest
    -- a symbol goes up to the space behind it
    have symbol := noSpace_symbol legible.self
    have symbol' := noSpace_symbol legible'.self
    obtain ⟨symbols, rest⟩ := append_inj_of_run symbol symbol' (notFirst_cons rfl)
      (notFirst_cons rfl) (List.cons.inj rest).2
    obtain ⟨rights, rest⟩ := right r' _ _ rightLegible (ends_close _) (ends_close _)
      (List.cons.inj rest).2
    have operators : op = op' := by
      rw [← BinOp.ofSymbol_symbol legible.self, symbols, BinOp.ofSymbol_symbol legible'.self]
    exact ⟨by rw [canonical, canonical, operators, lefts, rights], (List.cons.inj rest).2⟩
  | cond s' c' t' e' =>
    rw [render_cond_append] at same
    exact absurd (List.cons.inj same).2
      (render_append_ne_if (legible.child List.mem_cons_self) (ends_space _).of_operand)

theorem cancelsHead_cond {s : Span} {c y n : Expr}
    (legible : (Expr.cond s c y n).Legible) (test : c.Cancels) (yes : y.Cancels) (no : n.Cancels) :
    CancelsHead (.cond s c y n) := by
  intro e' t u legible' isHead' _ _ same
  have marks : some (.char '(') = e'.mark := mark_eq legible.self rfl legible'.self isHead' same
  rw [render_cond_append] at same
  cases e' with
  | lit | var | un | index | call => cases marks
  | bin s' op' l' r' =>
    rw [render_bin_append] at same
    exact absurd (List.cons.inj same).2.symm
      (render_append_ne_if (legible'.child List.mem_cons_self) (ends_space _).of_operand)
  | cond s' c' y' n' =>
    rw [render_cond_append] at same
    obtain ⟨_, rest⟩ := List.cons.inj same
    obtain ⟨_, rest⟩ := List.cons.inj (List.append_cancel_left rest)
    have parts : ∀ c ∈ (Expr.cond s' c' y' n').children, c.Legible :=
      fun c part => legible'.child part
    simp only [children, List.forall_mem_cons] at parts
    obtain ⟨testLegible, yesLegible, noLegible, _⟩ := parts
    obtain ⟨tests, rest⟩ := test c' _ _ testLegible (ends_space _) (ends_space _) rest
    obtain ⟨_, rest⟩ := List.cons.inj rest
    obtain ⟨yeses, rest⟩ := yes y' _ _ yesLegible (ends_space _) (ends_space _)
      (List.append_cancel_left rest)
    obtain ⟨_, rest⟩ := List.cons.inj rest
    obtain ⟨nos, rest⟩ := no n' _ _ noLegible (ends_close _) (ends_close _)
      (List.append_cancel_left rest)
    exact ⟨by rw [canonical, canonical, tests, yeses, nos], (List.cons.inj rest).2⟩

theorem cancelsHead_of_children (legible : e.Legible) (isHead : e.isHead = true)
    (parts : ∀ c ∈ e.children, c.Cancels) : e.CancelsHead := by
  cases e with
  | un | index => cases isHead
  | lit s v => exact cancelsHead_lit legible.self
  | var s name => exact cancelsHead_var legible.self
  | bin s op l r =>
    simp only [children, List.forall_mem_cons] at parts
    exact cancelsHead_bin legible parts.1 parts.2.1
  | cond s c y n =>
    simp only [children, List.forall_mem_cons] at parts
    exact cancelsHead_cond legible parts.1 parts.2.1 parts.2.2.1
  | call s name args => exact cancelsHead_call legible parts

theorem notFirst_renderKeys (ks : List Expr) (ends : NotFirst continuesOperand t) :
    NotFirst continuesName (renderKeys ks ++ t) := by
  cases ks with
  | nil => exact ends.of_operand
  | cons k ks => exact opens_key _

theorem cancels_of_spine (legible : e.Legible) (head : e.head.CancelsHead)
    (keys : ∀ k ∈ e.keys, k.Cancels) : e.Cancels := by
  intro e' t u legible' ends ends' same
  have marks : ∀ n, ∀ p ∈ List.replicate n (Point.char '!'), (p == .char '!') = true := by
    intro n p member
    rw [List.eq_of_mem_replicate member]
    rfl
  -- the negations end where the head begins, and the head ends before the first key
  simp only [render_eq_spine legible.wellFormed, render_eq_spine legible'.wellFormed,
    List.append_assoc] at same
  obtain ⟨negations, rest⟩ := append_inj_of_run (marks _) (marks _) (notFirst_negation legible)
    (notFirst_negation legible') same
  obtain ⟨heads, rest⟩ := head e'.head _ _ (legible'.of_mem (head_mem_nodes e')) (isHead_head e')
    (notFirst_renderKeys _ ends) (notFirst_renderKeys _ ends') rest
  obtain ⟨keys, rest⟩ := keys_cancel keys (fun k key => legible'.of_mem (mem_nodes_of_key key))
    ends ends' rest
  have count : e.negations = e'.negations := by simpa using congrArg List.length negations
  exact ⟨by rw [canonical_eq_assemble legible.wellFormed, canonical_eq_assemble legible'.wellFormed,
    heads, keys, count], rest⟩

/-- The head of a container is no part of the index, so the induction carries the whole spine. -/
theorem spine_cancels (legible : e.Legible) :
    e.head.CancelsHead ∧ ∀ k ∈ e.keys, k.Cancels := by
  induction e using induction_children with
  | step e ih =>
    have parts : ∀ c ∈ e.children, c.Cancels := by
      intro c part
      obtain ⟨head, keys⟩ := ih c part (legible.child part)
      exact cancels_of_spine (legible.child part) head keys
    cases e with
    | un s op e => exact ih e List.mem_cons_self (legible.child List.mem_cons_self)
    | index s c k =>
      obtain ⟨head, keys⟩ := ih c List.mem_cons_self (legible.child List.mem_cons_self)
      refine ⟨head, ?_⟩
      intro k' key
      rcases List.mem_append.mp key with inside | last
      · exact keys k' inside
      · rw [List.mem_singleton.mp last]
        exact parts k (List.mem_cons_of_mem _ List.mem_cons_self)
    | _ => exact ⟨cancelsHead_of_children legible rfl parts, fun k key => by cases key⟩

/-- Every legible tree can be cancelled from the front of a text. -/
theorem Legible.cancels (legible : e.Legible) : e.Cancels := by
  obtain ⟨head, keys⟩ := spine_cancels legible
  exact cancels_of_spine legible head keys

end Cancellation

/-- Two legible trees have the same text exactly if they differ at most in spans and in negations
standing inside of an indexing or outside of it. So if no negation is indexed in either tree, the
text determines the tree up to spans. -/
theorem render_eq_iff (a b : Expr) (legible : a.Legible) (legible' : b.Legible) :
    (a.render = b.render ↔ a.canonical = b.canonical) ∧
      (a.IndexesNoNegation → b.IndexesNoNegation → a.render = b.render → a.erase = b.erase) := by
  have determined : a.render = b.render → a.canonical = b.canonical := by
    intro same
    have ends : NotFirst continuesOperand [] := fun p first => by cases first
    exact (legible.cancels b [] [] legible' ends ends (by rw [same])).1
  refine ⟨⟨determined, ?_⟩, ?_⟩
  · intro same
    rw [← render_canonical a, same, render_canonical b]
  · intro plain plain' same
    rw [← canonical_eq_erase plain, determined same, canonical_eq_erase plain']

/-- Two readings of a call with every kind of node, at two places of a document. -/
theorem render_determines_nested :
    let readAt : Nat → Expr := fun n => .call ⟨n, n + 36, 0⟩ "f"
      [.un ⟨n + 2, n + 17, 0⟩ .not (.index ⟨n + 3, n + 17, 0⟩ (.index ⟨n + 3, n + 9, 0⟩
          (.var ⟨n + 3, n + 4, 0⟩ "x") (.lit ⟨n + 5, n + 8, 0⟩ ⟨"\n😀", none⟩))
          (.bin ⟨n + 10, n + 16, 0⟩ .plus (.var ⟨n + 10, n + 11, 0⟩ "i")
            (.call ⟨n + 13, n + 16, 0⟩ "g" []))),
        .cond ⟨n + 19, n + 35, 0⟩ (.var ⟨n + 22, n + 23, 0⟩ "p") (.var ⟨n + 28, n + 29, 0⟩ "y")
          (.lit ⟨n + 34, n + 35, 0⟩ ⟨"", none⟩)]
    (readAt 0).Legible ∧ (readAt 7).Legible ∧ (readAt 0).IndexesNoNegation ∧
      (readAt 7).IndexesNoNegation ∧ (readAt 0).render = (readAt 7).render ∧
      (readAt 0).same (readAt 7) = false ∧ (readAt 0).erase = (readAt 7).erase := by
  intro readAt
  have legible : (readAt 0).Legible := by decide +kernel
  have legible' : (readAt 7).Legible := by decide +kernel
  have plain : (readAt 0).IndexesNoNegation := by decide +kernel
  have plain' : (readAt 7).IndexesNoNegation := by decide +kernel
  have same : (readAt 0).render = (readAt 7).render := by decide +kernel
  have determined := (render_eq_iff _ _ legible legible').2 plain plain' same
  exact ⟨legible, legible', plain, plain', same, by decide +kernel, determined⟩

/-- The negation of what is found in a container has the text of what is found in the negation of
the container. -/
theorem render_negated_container :
    let container : Expr := .var ⟨1, 2, 0⟩ "a"
    let key : Expr := .lit ⟨3, 6, 0⟩ ⟨"0", none⟩
    let a : Expr := .un ⟨0, 7, 0⟩ .not (.index ⟨1, 7, 0⟩ container key)
    let b : Expr := .index ⟨0, 7, 0⟩ (.un ⟨0, 2, 0⟩ .not container) key
    a.Legible ∧ b.Legible ∧ a.render = b.render ∧ a.erase ≠ b.erase := by
  intro container key a b
  have different : a.erase ≠ b.erase := by
    intro same
    cases same
  exact ⟨by decide +kernel, by decide +kernel, by decide +kernel, different⟩

end TextExpr.Expr
