/-
The case of names.

Names may be typed as one likes, in capitals or small letters. So two queries that differ in the case
of names only are the same query to an application: they compile to the same predicate, or the same
statement of both is at fault and for the same reason. What an error says of the name it says in the
case in which it was typed, and that is all that can be different.

This is a statement about two runs, and it is carried from names to statements and from statements to
queries as a relation between results (`SameOutcome`), which is kept by doing the same to both. It
comes from two facts about names: the lower-case form of a text is the same in every mixture of cases,
and so is the place where a suffix for keys begins. Wherever compiling looks at a name it looks at one
of these. Which statement is at fault is then known from `FailsFirstAt`.
-/
import FilterQuery.Proofs.Compile.Faults
import FilterQuery.Proofs.Registry.Runs
import Mathlib.Data.List.Forall2

set_option autoImplicit false

namespace FilterQuery

/-! ## Queries that differ in the case of names -/

/-- Statements that differ in the case of the name at most. -/
inductive Statement.SameButCase : Statement → Statement → Prop
  | comparison {name name' : String} (h : Text.EqIgnoringCase name name') (op : Operator)
      (value : Literal) : SameButCase (.comparison name op value) (.comparison name' op value)
  | flag {name name' : String} (h : Text.EqIgnoringCase name name') (negated : Bool) :
      SameButCase (.flag name negated) (.flag name' negated)
  | freetext (text : String) : SameButCase (.freetext text) (.freetext text)

mutual

/-- Nodes that differ in the case of names at most, at every depth. -/
inductive Node.SameButCase : Node → Node → Prop
  | statement {s t : Statement} (h : s.SameButCase t) : SameButCase (.statement s) (.statement t)
  | connective (k : Connective) : SameButCase (.connective k) (.connective k)
  | group {ns ms : List Node} (h : SameButCaseEach ns ms) : SameButCase (.group ns) (.group ms)

/-- Lists of such nodes. -/
inductive Node.SameButCaseEach : List Node → List Node → Prop
  | nil : SameButCaseEach [] []
  | cons {n m : Node} {ns ms : List Node} (h : n.SameButCase m) (hs : SameButCaseEach ns ms) :
      SameButCaseEach (n :: ns) (m :: ms)

end

theorem Node.SameButCaseEach.eq_nil_iff {ns ms : List Node} (h : Node.SameButCaseEach ns ms) :
    ns = [] ↔ ms = [] := by
  cases h <;> simp

mutual

/-- Their statements differ in the case of the name at most, place by place. -/
theorem Node.SameButCase.statements {n m : Node} (h : n.SameButCase m) :
    List.Forall₂ Statement.SameButCase n.statements m.statements := by
  match h with
  | .statement h => exact .cons h .nil
  | .connective k => exact .nil
  | .group h =>
    rw [Node.statements, Node.statements]
    exact h.statements

theorem Node.SameButCaseEach.statements {ns ms : List Node} (h : Node.SameButCaseEach ns ms) :
    List.Forall₂ Statement.SameButCase (Node.statementsEach ns) (Node.statementsEach ms) := by
  match h with
  | .nil => exact .nil
  | .cons h hs =>
    rw [Node.statementsEach, Node.statementsEach]
    exact List.rel_append h.statements hs.statements

end

/-- At each place of the one list there is something that the other has a counterpart of. -/
theorem exists_getElem?_of_forall₂ {α β : Type} {R : α → β → Prop} {xs : List α} {ys : List β}
    (h : List.Forall₂ R xs ys) {i : Nat} {x : α} (hx : xs[i]? = some x) :
    ∃ y, ys[i]? = some y ∧ R x y := by
  induction h generalizing i with
  | nil => simp at hx
  | cons hxy _ ih =>
    cases i with
    | zero => exact ⟨_, rfl, Option.some.inj hx ▸ hxy⟩
    | succ i => exact ih hx

/-! ## Results that differ in the case of names -/

/-- Errors that differ at most in the case of the name that was typed. -/
inductive QueryError.SameButCase : QueryError → QueryError → Prop
  | same (e : QueryError) : SameButCase e e
  | unknownFilter {name name' : String} (h : Text.EqIgnoringCase name name')
      (available : List String) :
      SameButCase (.unknownFilter name available) (.unknownFilter name' available)
  | notUnary {name name' : String} (h : Text.EqIgnoringCase name name') :
      SameButCase (.notUnary name) (.notUnary name')

/-- The same value, or errors that differ at most in the case of the name that was typed. -/
inductive SameOutcome {α : Type} : Except QueryError α → Except QueryError α → Prop
  | ok (a : α) : SameOutcome (.ok a) (.ok a)
  | error {e e' : QueryError} (h : e.SameButCase e') : SameOutcome (.error e) (.error e')

namespace SameOutcome

variable {α β : Type} {x y : Except QueryError α}

theorem refl (x : Except QueryError α) : SameOutcome x x := by
  cases x with
  | error e => exact .error (.same e)
  | ok a => exact .ok a

/-- **Doing the same to both** keeps outcomes the same. -/
theorem bind {f g : α → Except QueryError β} (h : SameOutcome x y)
    (hfg : ∀ a, SameOutcome (f a) (g a)) : SameOutcome (x.bind f) (y.bind g) := by
  cases h with
  | ok a => exact hfg a
  | error h => exact .error h

theorem map (h : SameOutcome x y) (f : α → β) : SameOutcome (x.map f) (y.map f) := by
  cases h with
  | ok a => exact .ok (f a)
  | error h => exact .error h

theorem eq_ok_iff (h : SameOutcome x y) (a : α) : x = .ok a ↔ y = .ok a := by
  cases h with
  | ok b => rfl
  | error h => exact ⟨nofun, nofun⟩

theorem exists_of_error (h : SameOutcome x y) {e : QueryError} (hx : x = .error e) :
    ∃ e', y = .error e' ∧ e.SameButCase e' := by
  cases h with
  | ok a => cases hx
  | @error e₁ e' h => exact ⟨e', rfl, Except.error.inj hx ▸ h⟩

end SameOutcome

namespace Registry

variable {r : Registry} {name name' : String}

/-! ## Statements -/

/-- A name leads to the same filter in every mixture of cases, or it is not known in any. -/
theorem Consistent.sameOutcome_resolve (hr : r.Consistent) (h : Text.EqIgnoringCase name name') :
    SameOutcome (r.resolve name) (r.resolve name') := by
  unfold resolve
  rw [hr.get?_congr h.lowercase_eq]
  split
  · exact .ok _
  · exact .error (.unknownFilter h _)

theorem Consistent.sameOutcome_compileComparison (hr : r.Consistent)
    (h : Text.EqIgnoringCase name name') (op : Operator) (v : Literal) :
    SameOutcome (r.compileComparison name op v) (r.compileComparison name' op v) := by
  -- Either both names end in the suffix for keys, or none does.
  have hkey := h.rel_dropKeySuffix?
  unfold compileComparison
  generalize dropKeySuffix? name = base at hkey
  generalize dropKeySuffix? name' = base' at hkey
  cases hkey with
  | none => exact (hr.sameOutcome_resolve h).bind fun _ => .refl _
  | some hbase => exact (hr.sameOutcome_resolve hbase).bind fun _ => .refl _

theorem Consistent.sameOutcome_compileFlag (hr : r.Consistent)
    (h : Text.EqIgnoringCase name name') (negated : Bool) :
    SameOutcome (r.compileFlag name negated) (r.compileFlag name' negated) := by
  refine (hr.sameOutcome_resolve h).bind fun f => ?_
  split
  · exact .refl _
  · exact .error (.notUnary h)

/-- **The case of the name does not matter to a statement.** -/
theorem Consistent.sameOutcome_compileStatement (hr : r.Consistent) {s t : Statement}
    (h : s.SameButCase t) : SameOutcome (r.compileStatement s) (r.compileStatement t) := by
  cases h with
  | comparison h op value => exact hr.sameOutcome_compileComparison h op value
  | flag h negated => exact hr.sameOutcome_compileFlag h negated
  | freetext text => exact .refl _

/-! ## Nodes -/

mutual

theorem Consistent.sameOutcome_compileNode (hr : r.Consistent) {n m : Node}
    (h : n.SameButCase m) : SameOutcome (r.compileNode n) (r.compileNode m) := by
  match h with
  | .statement h => exact (hr.sameOutcome_compileStatement h).map Item.predicate
  | .connective k => exact .refl _
  | .group h =>
    rw [compileNode, compileNode]
    exact ((hr.sameOutcome_compileEach h).bind fun _ => .refl _).map Item.predicate

/-- The case of names does not matter to the nodes of a query. -/
theorem Consistent.sameOutcome_compileEach (hr : r.Consistent) {ns ms : List Node}
    (h : Node.SameButCaseEach ns ms) : SameOutcome (r.compileEach ns) (r.compileEach ms) := by
  match h with
  | .nil => exact .refl _
  | .cons h hs =>
    rw [compileEach, compileEach]
    exact (hr.sameOutcome_compileNode h).bind fun _ => (hr.sameOutcome_compileEach hs).map _

end

theorem Consistent.sameOutcome_compileNodes (hr : r.Consistent) {ns ms : List Node}
    (h : Node.SameButCaseEach ns ms) : SameOutcome (r.compileNodes ns) (r.compileNodes ms) :=
  (hr.sameOutcome_compileEach h).bind fun _ => .refl _

/-! ## The statement at fault -/

/-- **The case of names does not matter to which statement fails first.** -/
theorem Consistent.failsFirstAt_of_sameButCase (hr : r.Consistent) {ss ts : List Statement}
    (h : List.Forall₂ Statement.SameButCase ss ts) {i : Nat} {e : QueryError}
    (hfails : r.FailsFirstAt ss i e) : ∃ e', r.FailsFirstAt ts i e' ∧ e.SameButCase e' := by
  obtain ⟨⟨s, hs, hse⟩, hearlier⟩ := hfails
  obtain ⟨t, ht, hst⟩ := exists_getElem?_of_forall₂ h hs
  obtain ⟨e', hte, he⟩ := (hr.sameOutcome_compileStatement hst).exists_of_error hse
  refine ⟨e', ⟨⟨t, ht, hte⟩, fun j hj t' ht' => ?_⟩, he⟩
  -- What stands before it in the second list has a counterpart before it in the first.
  obtain ⟨s', hs', hst'⟩ := exists_getElem?_of_forall₂ (R := flip Statement.SameButCase) h.flip ht'
  obtain ⟨p, hp⟩ := hearlier j hj s' hs'
  exact ⟨p, ((hr.sameOutcome_compileStatement hst').eq_ok_iff p).1 hp⟩

/-! ## Texts -/

/-- The case of names does not matter to the outcome of a text. -/
theorem Consistent.sameOutcome_compileWithin (hr : r.Consistent) {limits limits' : Limits}
    {text text' : String} {q q' : Query}
    (hread : Query.parseWithin limits (Text.trim text) = .ok q)
    (hread' : Query.parseWithin limits' (Text.trim text') = .ok q')
    (h : Node.SameButCaseEach q.nodes q'.nodes) :
    SameOutcome (r.compileWithin limits text) (r.compileWithin limits' text') := by
  by_cases hnodes : q.nodes = []
  · -- Both texts are blank then, and neither fails.
    have hnodes' := h.eq_nil_iff.1 hnodes
    rw [compileWithin_of_nodes_nil hread hnodes, compileWithin_of_nodes_nil hread' hnodes']
    exact .refl _
  · have hnodes' : q'.nodes ≠ [] := fun hnil => hnodes (h.eq_nil_iff.2 hnil)
    rw [compileWithin_of_parseWithin hread hnodes, compileWithin_of_parseWithin hread' hnodes']
    exact hr.sameOutcome_compileNodes h

/-- **The case of names does not matter.**

Take two texts that are read as queries which are equal but for the case of letters of ASCII in the
names of filters, the suffix for keys included, at any depth. One compiles to a predicate if and only
if the other does, and to the same one. If one fails, so does the other, and the first statement that
fails is at the same place in both; the errors are the same, except that a name that was typed is
quoted as it was typed. -/
theorem compileWithin_of_sameButCase (hr : r.Reachable) {limits limits' : Limits}
    {text text' : String} {q q' : Query}
    (hread : Query.parseWithin limits (Text.trim text) = .ok q)
    (hread' : Query.parseWithin limits' (Text.trim text') = .ok q')
    (h : Node.SameButCaseEach q.nodes q'.nodes) :
    (∀ p, r.compileWithin limits text = .ok p ↔ r.compileWithin limits' text' = .ok p) ∧
    ∀ e, r.compileWithin limits text = .error e →
      ∃ i e', r.FailsFirstAt q.statements i e ∧ r.FailsFirstAt q'.statements i e' ∧
        r.compileWithin limits' text' = .error e' ∧ e.SameButCase e' := by
  have hconsistent : r.Consistent := hr.consistent
  have houtcome := hconsistent.sameOutcome_compileWithin hread hread' h
  refine ⟨houtcome.eq_ok_iff, fun e he => ?_⟩
  obtain ⟨i, hi⟩ := (compileWithin_eq_error_iff hread).1 he
  obtain ⟨e', hi', hsame⟩ := hconsistent.failsFirstAt_of_sameButCase h.statements hi
  exact ⟨i, e', hi, hi', (compileWithin_eq_error_iff hread').2 ⟨i, hi'⟩, hsame⟩

/-- A comparison, a key and a flag, the last two in a group; and a key of a filter that is not known,
in the second of two statements. -/
theorem compileWithin_of_sameButCase_group :
    let r : Registry := ⟨[Filter.text "title", Filter.reference "artist" fun _ => [],
      Filter.boolean "live"]⟩
    let t₁ := "TITLE=Live and (artist.PK=7 or !liVe)"
    let t₂ := "title=Live and (Artist.pk=7 or !live)"
    let t₃ := "live or (Yaer.pK>7)"
    let t₄ := "LIVE or (yaer.PK>7)"
    let q₁ : Query := ⟨[.statement (.comparison "TITLE" .eq (.bare "Live")), .connective .and,
      .group [.statement (.comparison "artist.PK" .eq (.bare "7")), .connective .or,
        .statement (.flag "liVe" true)]]⟩
    let q₂ : Query := ⟨[.statement (.comparison "title" .eq (.bare "Live")), .connective .and,
      .group [.statement (.comparison "Artist.pk" .eq (.bare "7")), .connective .or,
        .statement (.flag "live" true)]]⟩
    let q₃ : Query := ⟨[.statement (.flag "live" false), .connective .or,
      .group [.statement (.comparison "Yaer.pK" .gt (.bare "7"))]]⟩
    let q₄ : Query := ⟨[.statement (.flag "LIVE" false), .connective .or,
      .group [.statement (.comparison "yaer.PK" .gt (.bare "7"))]]⟩
    let p : Predicate := .conj [.compare "title" .iexact (.field "live"),
      .disj [.compare "artist.pk" .exact (.value (.int 7)),
        .compare "live" .exact (.value (.bool false))]]
    let e : QueryError := .unknownFilter "Yaer" r.names
    r.Reachable ∧
      (Query.parseWithin {} (Text.trim t₁) = .ok q₁ ∧ Query.parseWithin {} (Text.trim t₂) = .ok q₂ ∧
        Node.SameButCaseEach q₁.nodes q₂.nodes) ∧
      (r.compileWithin {} t₁ = .ok p ∧ r.compileWithin {} t₂ = .ok p) ∧
      (Query.parseWithin {} (Text.trim t₃) = .ok q₃ ∧ Query.parseWithin {} (Text.trim t₄) = .ok q₄ ∧
        Node.SameButCaseEach q₃.nodes q₄.nodes) ∧
      r.compileWithin {} t₃ = .error e ∧
      ∃ i e', r.FailsFirstAt q₃.statements i e ∧ r.FailsFirstAt q₄.statements i e' ∧
        r.compileWithin {} t₄ = .error e' ∧ e.SameButCase e' := by
  intro r t₁ t₂ t₃ t₄ q₁ q₂ q₃ q₄ p e
  have hr : r.Reachable := by
    refine .register (.register (.register .empty (register_eq_ok_iff.2 ⟨?_, rfl⟩))
      (register_eq_ok_iff.2 ⟨?_, rfl⟩)) (register_eq_ok_iff.2 ⟨?_, rfl⟩)
    all_goals decide
  have h₁ : Query.parseWithin {} (Text.trim t₁) = .ok q₁ := eq_ok_of_toOption (by decide +kernel)
  have h₂ : Query.parseWithin {} (Text.trim t₂) = .ok q₂ := eq_ok_of_toOption (by decide +kernel)
  have h₃ : Query.parseWithin {} (Text.trim t₃) = .ok q₃ := eq_ok_of_toOption (by decide +kernel)
  have h₄ : Query.parseWithin {} (Text.trim t₄) = .ok q₄ := eq_ok_of_toOption (by decide +kernel)
  have hsame₁₂ : Node.SameButCaseEach q₁.nodes q₂.nodes :=
    .cons (.statement (.comparison (by decide) _ _)) <| .cons (.connective _) <| .cons (.group <|
      .cons (.statement (.comparison (by decide) _ _)) <| .cons (.connective _) <|
        .cons (.statement (.flag (by decide) _)) .nil) .nil
  have hsame₃₄ : Node.SameButCaseEach q₃.nodes q₄.nodes :=
    .cons (.statement (.flag (by decide) _)) <| .cons (.connective _) <| .cons (.group <|
      .cons (.statement (.comparison (by decide) _ _)) .nil) .nil
  have hp : r.compileWithin {} t₁ = .ok p := by
    rw [compileWithin_of_parseWithin h₁ (List.cons_ne_nil _ _)]
    rfl
  have he : r.compileWithin {} t₃ = .error e := by
    rw [compileWithin_of_parseWithin h₃ (List.cons_ne_nil _ _)]
    rfl
  obtain ⟨hok, -⟩ := compileWithin_of_sameButCase hr h₁ h₂ hsame₁₂
  obtain ⟨-, herror⟩ := compileWithin_of_sameButCase hr h₃ h₄ hsame₃₄
  exact ⟨hr, ⟨h₁, h₂, hsame₁₂⟩, ⟨hp, (hok p).1 hp⟩, ⟨h₃, h₄, hsame₃₄⟩, he, herror e he⟩

end Registry

end FilterQuery
