/-
What a text compiles to is put together from what its statements compile to.

Precedence decides in which order predicates are combined and groups decide what is combined first,
but in the end every predicate that a text compiles to has been made of those of its statements by
combining two at a time. So a property that the predicates of statements have, and that combining
keeps, is a property of the whole, whatever the text is. And the registry has a say in the statements
only: two registries that agree on those of a text agree on the text. Where there is nothing to
decide, for one statement or one connective throughout, this is known down to the error.
-/
import FilterQuery.Proofs.Compile

set_option autoImplicit false

namespace FilterQuery

/-- Whatever is combined from two predicates with the property has it, too. -/
def KeptByCombining (P : Predicate → Prop) : Prop :=
  ∀ (k : Connective) (p q : Predicate), P p → P q → P (k.apply p q)

variable {P : Predicate → Prop}

namespace Precedence

/-- Putting a sequence into reverse Polish order adds no predicate. -/
theorem mem_of_mem_polishFrom {p : Predicate} {items : List Item} {waiting : List Connective}
    (h : .predicate p ∈ polishFrom waiting items) : .predicate p ∈ items := by
  fun_induction polishFrom waiting items with
  | case1 waiting => simp at h
  | case2 waiting q items ih =>
    rcases List.mem_cons.1 h with heq | hmem
    · exact heq ▸ List.mem_cons_self
    · exact List.mem_cons_of_mem _ (ih hmem)
  | case3 waiting k items ih =>
    rcases List.mem_append.1 h with hmem | hmem
    · simp at hmem
    · exact List.mem_cons_of_mem _ (ih hmem)

/-- The stack holds only what has the property, and so the result has it. -/
theorem of_evaluateFrom? (hP : KeptByCombining P) {stack : List Predicate} {items : List Item}
    {p : Predicate} (hstack : ∀ q ∈ stack, P q) (hitems : ∀ q, .predicate q ∈ items → P q)
    (h : evaluateFrom? stack items = some p) : P p := by
  fun_induction evaluateFrom? stack items with
  | case1 q =>
    obtain rfl := Option.some.inj h
    exact hstack q List.mem_cons_self
  | case2 => simp at h
  | case3 stack q items ih =>
    refine ih (fun x hx => ?_) (fun x hx => hitems x (List.mem_cons_of_mem _ hx)) h
    rcases List.mem_cons.1 hx with rfl | hx
    · exact hitems x List.mem_cons_self
    · exact hstack x hx
  | case4 q p stack k items ih =>
    -- The two on top of the stack are combined.
    refine ih (fun x hx => ?_) (fun x hx => hitems x (List.mem_cons_of_mem _ hx)) h
    rcases List.mem_cons.1 hx with rfl | hx
    · refine hP k _ _ (hstack p ?_) (hstack q List.mem_cons_self)
      exact List.mem_cons_of_mem q List.mem_cons_self
    · exact hstack x (List.mem_cons_of_mem q (List.mem_cons_of_mem p hx))
  | case5 => simp at h

/-- What a sequence comes to has the property, if all its predicates have. -/
theorem of_resolve? (hP : KeptByCombining P) {items : List Item} {p : Predicate}
    (hitems : ∀ q, .predicate q ∈ items → P q) (h : resolve? items = some p) : P p := by
  rw [resolve?_eq_evaluateFrom?, toPolish] at h
  have hnone : ∀ q ∈ ([] : List Predicate), P q := fun _ hq => absurd hq List.not_mem_nil
  exact of_evaluateFrom? hP hnone (fun q hq => hitems q (mem_of_mem_polishFrom hq)) h

end Precedence

namespace Registry

variable {r : Registry}

/-- What is combined has the property, if all predicates of the sequence have. -/
theorem of_combine (hP : KeptByCombining P) {items : List Item} {p : Predicate}
    (hitems : ∀ q, .predicate q ∈ items → P q) (h : combine items = .ok p) : P p := by
  unfold combine at h
  split at h
  · rename_i q hq
    obtain rfl := Except.ok.inj h
    exact Precedence.of_resolve? hP hitems hq
  · simp at h

mutual

/-- A node that compiles to a predicate compiles to one with the property. -/
theorem of_compileNode (hP : KeptByCombining P)
    (hstatement : ∀ s p, r.compileStatement s = .ok p → P p) {n : Node} {p : Predicate}
    (h : r.compileNode n = .ok (.predicate p)) : P p := by
  match n with
  | .statement s =>
    rw [compileNode] at h
    obtain ⟨q, hq, heq⟩ := exists_of_map_eq_ok h
    obtain rfl := Item.predicate.inj heq
    exact hstatement s q hq
  | .connective k => simp [compileNode] at h
  | .group ns =>
    rw [compileNode] at h
    obtain ⟨q, hq, heq⟩ := exists_of_map_eq_ok h
    obtain rfl := Item.predicate.inj heq
    obtain ⟨items, hitems, hcombine⟩ := exists_of_bind_eq_ok hq
    exact of_combine hP (of_compileEach hP hstatement hitems) hcombine

/-- So do all nodes of a list. -/
theorem of_compileEach (hP : KeptByCombining P)
    (hstatement : ∀ s p, r.compileStatement s = .ok p → P p) {ns : List Node} {items : List Item}
    (h : r.compileEach ns = .ok items) : ∀ q, .predicate q ∈ items → P q := by
  match ns with
  | [] =>
    rw [compileEach] at h
    obtain rfl := Except.ok.inj h
    intro q hq
    exact absurd hq List.not_mem_nil
  | n :: ns =>
    rw [compileEach] at h
    obtain ⟨item, hitem, htail⟩ := exists_of_bind_eq_ok h
    obtain ⟨rest, hrest, rfl⟩ := exists_of_map_eq_ok htail
    intro q hq
    rcases List.mem_cons.1 hq with rfl | hq
    · exact of_compileNode hP hstatement hitem
    · exact of_compileEach hP hstatement hrest q hq

end

/-- **A property that statements have and combining keeps** is one of whatever a text compiles to.
A blank text asks for nothing, so what asks for nothing has to have it, too. -/
theorem of_compileWithin (hP : KeptByCombining P)
    (hstatement : ∀ s p, r.compileStatement s = .ok p → P p) (hempty : P .empty) {limits : Limits}
    {text : String} {p : Predicate} (h : r.compileWithin limits text = .ok p) : P p := by
  obtain ⟨-, rfl⟩ | ⟨-, q, -, hnodes⟩ := exists_of_compileWithin h
  · exact hempty
  · obtain ⟨items, hitems, hcombine⟩ := exists_of_bind_eq_ok hnodes
    exact of_combine hP (of_compileEach hP hstatement hitems) hcombine

end Registry

/-! ## A statement on its own -/

namespace Registry

/-- A statement that is the whole query is combined with nothing. -/
theorem compileNodes_statement (r : Registry) (s : Statement) :
    r.compileNodes [.statement s] = r.compileStatement s := by
  rw [compileNodes, compileEach, compileNode, compileEach]
  cases r.compileStatement s <;> rfl

/-- A text that writes a statement compiles to what the statement compiles to. -/
theorem compileWithin_of_writesAlone (r : Registry) {s : Statement} (hs : s.WellFormed)
    {text : String} (hwrites : WritesAlone s.tokens text.toList) (htrimmed : IsTrimmed text.toList)
    {limits : Limits} (hlength : byteLength text.toList ≤ limits.maxLength) :
    r.compileWithin limits text = r.compileStatement s := by
  have hread : Query.parseWithin limits (Text.trim text) = .ok ⟨[.statement s]⟩ := by
    rw [htrimmed.trim]
    refine parseWithin_of_spelling (.one (.statement hs)) ?_ (Nat.zero_le _) hlength
    rw [Query.Spelling, Query.tokens, Node.tokensEach, Node.tokensEach, Node.tokens,
      List.append_nil]
    exact hwrites.layout
  rw [compileWithin_of_parseWithin hread (List.cons_ne_nil _ _), compileNodes_statement]

/-- **The canonical text of a statement compiles to what the statement compiles to**, to the same
predicate or the same error. -/
theorem compileWithin_render (r : Registry) {s : Statement} (hs : s.WellFormed) {limits : Limits}
    (hlength : byteLength s.render.toList ≤ limits.maxLength) :
    r.compileWithin limits s.render = r.compileStatement s :=
  r.compileWithin_of_writesAlone hs s.writesAlone_render hs.isTrimmed hlength

/-- **So does any other text of a comparison**: the operator and the literal may be in any of their
spellings, and the operator may have blanks around it. -/
theorem compileWithin_comparison (r : Registry) {name : String} (hname : isName name = true)
    {op : Operator} {symbol : String} (hsymbol : symbol ∈ op.spellings) {v : Literal}
    (hv : v.WellFormed) {gap gap' rhs : String} (hgap : IsBlankText gap.toList)
    (hgap' : IsBlankText gap'.toList) (hrhs : v.token.Writes rhs.toList) {limits : Limits}
    (hlength : byteLength (name ++ gap ++ symbol ++ gap' ++ rhs).toList ≤ limits.maxLength) :
    r.compileWithin limits (name ++ gap ++ symbol ++ gap' ++ rhs)
      = r.compileComparison name op v := by
  have htext : (name ++ gap ++ symbol ++ gap' ++ rhs).toList
      = name.toList ++ (gap.toList ++ (symbol.toList ++ (gap'.toList ++ rhs.toList))) := by
    simp only [String.toList_append, List.append_assoc]
  refine r.compileWithin_of_writesAlone (s := .comparison name op v) ⟨hname, hv⟩ ?_ ?_ hlength
  · rw [htext]
    exact .comparison name hsymbol hgap hgap' hrhs
  · rw [htext]
    simpa only [List.append_assoc] using
      isTrimmed_comparison hname hv hrhs (gap.toList ++ (symbol.toList ++ gap'.toList))

/-! ## Conditions with one connective throughout -/

/-- A group that is the whole query is combined with nothing. -/
theorem compileNodes_group (r : Registry) (ns : List Node) :
    r.compileNodes [.group ns] = r.compileNodes ns := by
  rw [compileNodes, compileEach, compileNode, compileEach, compileNodes]
  cases (r.compileEach ns).bind combine <;> rfl

/-- **Conditions with one connective between any two neighbours are compiled one after the other and
then combined**; the first that fails is the one reported. -/
theorem compileNodes_intersperse {r : Registry} {α : Type} (k : Connective) {node : α → Node}
    {p : α → Except QueryError Predicate} {xs : List α} (hne : xs ≠ [])
    (h : ∀ x ∈ xs, r.compileNode (node x) = (p x).map .predicate) :
    r.compileNodes ((xs.map node).intersperse (.connective k)) = (xs.mapM p).map k.applyAll := by
  have heach : r.compileEach ((xs.map node).intersperse (.connective k))
      = (xs.mapM p).map (Precedence.joined k) := by
    -- By induction, which goes down to no conditions at all.
    clear hne
    induction xs with
    | nil => rfl
    | cons x xs ih =>
      obtain ⟨hx, hxs⟩ := List.forall_mem_cons.1 h
      cases xs with
      | nil =>
        rw [List.map_singleton, List.intersperse_singleton, compileEach, hx, List.mapM_cons]
        cases p x <;> rfl
      | cons y ys =>
        have hall : (x :: y :: ys).mapM p
            = (p x).bind fun q => ((y :: ys).mapM p).bind fun qs => .ok (q :: qs) :=
          List.mapM_cons
        rw [List.map_cons, List.map_cons, List.intersperse_cons_cons, compileEach, compileEach,
          hx, compileNode, ← List.map_cons, ih hxs, hall]
        cases p x with
        | error e => rfl
        | ok q =>
          -- What follows is no empty list, so a connective is due behind the first.
          cases hqs : (y :: ys).mapM p with
          | error e => rfl
          | ok qs =>
            obtain ⟨q', qs, rfl⟩ := List.exists_cons_of_ne_nil (ne_nil_of_mapM_eq_ok hqs)
            rfl
  rw [compileNodes, heach]
  cases hps : xs.mapM p with
  | error e => rfl
  | ok ps =>
    obtain ⟨x, xs, rfl⟩ := List.exists_cons_of_ne_nil hne
    simp only [Except.map, Except.bind, combine,
      Precedence.resolve?_joined k (ne_nil_of_mapM_eq_ok hps)]

end Registry

/-! ## The statements of a query -/

mutual

/-- The statements in a node, in order, at every depth. -/
def Node.statements : Node → List Statement
  | .statement s => [s]
  | .connective _ => []
  | .group nodes => Node.statementsEach nodes

/-- The statements in some nodes. -/
def Node.statementsEach : List Node → List Statement
  | [] => []
  | n :: ns => n.statements ++ Node.statementsEach ns

end

/-- The statements in a query, in order, at every depth. -/
def Query.statements (q : Query) : List Statement :=
  Node.statementsEach q.nodes

namespace Registry

variable {r r' : Registry}

mutual

/-- A node compiles as before with a registry that compiles its statements as before. -/
theorem compileNode_congr {n : Node} {item : Item}
    (hstatements : ∀ s ∈ n.statements, ∀ p, r.compileStatement s = .ok p →
      r'.compileStatement s = .ok p)
    (h : r.compileNode n = .ok item) : r'.compileNode n = .ok item := by
  match n with
  | .statement s =>
    rw [compileNode] at h
    obtain ⟨p, hp, rfl⟩ := exists_of_map_eq_ok h
    have hmem : s ∈ (Node.statement s).statements := by
      rw [Node.statements]
      exact List.mem_singleton_self s
    rw [compileNode, hstatements s hmem p hp]
    rfl
  | .connective k =>
    rw [compileNode] at h
    rw [compileNode, h]
  | .group ns =>
    rw [Node.statements] at hstatements
    rw [compileNode] at h
    obtain ⟨p, hp, rfl⟩ := exists_of_map_eq_ok h
    obtain ⟨items, hitems, hcombine⟩ := exists_of_bind_eq_ok hp
    rw [compileNode, compileEach_congr hstatements hitems, Except.bind, hcombine]
    rfl

/-- So do the nodes of a list. -/
theorem compileEach_congr {ns : List Node} {items : List Item}
    (hstatements : ∀ s ∈ Node.statementsEach ns, ∀ p, r.compileStatement s = .ok p →
      r'.compileStatement s = .ok p)
    (h : r.compileEach ns = .ok items) : r'.compileEach ns = .ok items := by
  match ns with
  | [] =>
    rw [compileEach] at h
    rw [compileEach, h]
  | n :: ns =>
    rw [Node.statementsEach] at hstatements
    obtain ⟨hfirst, hothers⟩ := List.forall_mem_append.1 hstatements
    rw [compileEach] at h
    obtain ⟨item, hitem, htail⟩ := exists_of_bind_eq_ok h
    obtain ⟨rest, hrest, rfl⟩ := exists_of_map_eq_ok htail
    rw [compileEach, compileNode_congr hfirst hitem, compileEach_congr hothers hrest]
    rfl

end

/-- **A text compiles as before with a registry that compiles its statements as before.** -/
theorem compileWithin_congr {limits : Limits} {text : String} {q : Query} {p : Predicate}
    (hq : Query.parseWithin limits (Text.trim text) = .ok q)
    (hstatements : ∀ s ∈ q.statements, ∀ p, r.compileStatement s = .ok p →
      r'.compileStatement s = .ok p)
    (h : r.compileWithin limits text = .ok p) : r'.compileWithin limits text = .ok p := by
  obtain ⟨hempty, rfl⟩ | ⟨hempty, q', hq', hnodes⟩ := exists_of_compileWithin h
  · unfold compileWithin
    simp only [hempty, if_true]
  · obtain rfl : q = q' := Except.ok.inj (hq.symm.trans hq')
    obtain ⟨items, hitems, hcombine⟩ := exists_of_bind_eq_ok hnodes
    unfold compileWithin
    simp only [hempty, hq, Bool.false_eq_true, if_false]
    rw [compileNodes, compileEach_congr hstatements hitems, Except.bind, hcombine]

end Registry

end FilterQuery
