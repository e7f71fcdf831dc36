/-
Which fault of a query is reported.

A query can have many faults, and the one that is reported is that of the first statement that has
one, from left to right, however deep in parentheses the statements are. Connectives and precedence
have no say in it. A group is compiled when its turn comes, with all that is in it, and combining a
sequence by precedence fails only if the sequence has not the right shape, which that of an
expression always has.

So the error of a query is a function of the list of its statements (`Registry.firstFault?`), and
the place of the statement that it comes from can be told (`Registry.FailsFirstAt`). The list is in
the order of the text (`WritesInOrder`), and each of the statements fails as it would if it were a
text of its own.
-/
import FilterQuery.Proofs.Compile.Outcome
import FilterQuery.Proofs.Compile.Statements

set_option autoImplicit false

namespace FilterQuery

namespace Registry

variable {r : Registry} {e : QueryError}

/-! ## Faults of statements -/

/-- The error of the first statement that has one, each compiled on its own. -/
def firstFault? (r : Registry) (ss : List Statement) : Option QueryError :=
  ss.findSome? fun s => error? (r.compileStatement s)

/-- `r.FailsFirstAt ss i e`: the statement at place `i` fails with the error `e`, and none of those
before it fails. -/
structure FailsFirstAt (r : Registry) (ss : List Statement) (i : Nat) (e : QueryError) : Prop where
  fails : ∃ s, ss[i]? = some s ∧ r.compileStatement s = .error e
  earlier : ∀ j < i, ∀ s, ss[j]? = some s → ∃ p, r.compileStatement s = .ok p

theorem firstFault?_append (r : Registry) (ss ts : List Statement) :
    r.firstFault? (ss ++ ts) = (r.firstFault? ss).or (r.firstFault? ts) :=
  List.findSome?_append

theorem firstFault?_singleton (r : Registry) (s : Statement) :
    r.firstFault? [s] = error? (r.compileStatement s) := by
  rw [firstFault?, List.findSome?_cons]
  cases error? (r.compileStatement s) <;> rfl

/-- **The first fault is at some place**, and whatever fails first at some place is the first
fault. -/
theorem firstFault?_eq_some_iff {ss : List Statement} :
    r.firstFault? ss = some e ↔ ∃ i, r.FailsFirstAt ss i e := by
  rw [firstFault?, List.findSome?_eq_some_iff]
  constructor
  · rintro ⟨before, s, after, rfl, hs, hbefore⟩
    refine ⟨before.length, ⟨s, by simp, error?_eq_some_iff.1 hs⟩, fun j hj t ht => ?_⟩
    rw [List.getElem?_append_left hj] at ht
    exact error?_eq_none_iff.1 (hbefore t (List.mem_of_getElem? ht))
  · rintro ⟨i, ⟨s, hs, hfails⟩, hearlier⟩
    obtain ⟨hi, rfl⟩ := List.getElem?_eq_some_iff.1 hs
    refine ⟨ss.take i, ss[i], ss.drop (i + 1), ?_, error?_eq_some_iff.2 hfails, fun t ht => ?_⟩
    · rw [← List.drop_eq_getElem_cons hi, List.take_append_drop]
    · obtain ⟨j, hj, rfl⟩ := List.mem_take_iff_getElem.1 ht
      refine error?_eq_none_iff.2 (hearlier j (by omega) _ ?_)
      exact List.getElem?_eq_getElem _

/-! ## Faults of nodes -/

/-- Combining what an expression compiles to adds no fault. -/
theorem error?_bind_combine {ns : List Node} (h : IsExpression ns) :
    error? ((r.compileEach ns).bind combine) = error? (r.compileEach ns) := by
  have hcombine : ∀ items, r.compileEach ns = .ok items → error? (combine items) = none := by
    intro items hitems
    rw [combine_of_alternates (alternates_of_compileEach h hitems)]
    rfl
  rw [error?_bind hcombine, Option.or_none]

mutual

/-- The first fault of a condition is that of its statements. -/
theorem error?_compileNode (r : Registry) {n : Node} (hn : IsCondition n) :
    error? (r.compileNode n) = r.firstFault? n.statements := by
  match hn with
  | .statement (s := s) _ =>
    rw [compileNode, error?_map, Node.statements, firstFault?_singleton]
  | .group h =>
    rw [compileNode, error?_map, error?_bind_combine h, error?_compileEach r h, Node.statements]

/-- So is that of an expression. -/
theorem error?_compileEach (r : Registry) {ns : List Node} (h : IsExpression ns) :
    error? (r.compileEach ns) = r.firstFault? (Node.statementsEach ns) := by
  match h with
  | .one hn =>
    rw [compileEach, error?_bind fun item _ => error?_map _ _, error?_compileNode r hn, compileEach,
      Node.statementsEach, Node.statementsEach, firstFault?_append]
    rfl
  | .join k hn hs =>
    -- Between the condition and the rest there is a connective, which never fails.
    rw [compileEach, error?_bind fun item _ => error?_map _ _, error?_compileNode r hn, compileEach,
      compileNode, error?_bind fun item _ => error?_map _ _, error?_compileEach r hs,
      Node.statementsEach, Node.statementsEach, Node.statements, firstFault?_append]
    rfl

end

/-- **The first fault of an expression is that of its statements**: grouping and precedence have no
say in it. -/
theorem error?_compileNodes (r : Registry) {ns : List Node} (h : IsExpression ns) :
    error? (r.compileNodes ns) = r.firstFault? (Node.statementsEach ns) := by
  rw [compileNodes, error?_bind_combine h, error?_compileEach r h]

/-- **An expression fails as the first of its statements that fails.** -/
theorem compileNodes_eq_error_iff {ns : List Node} (h : IsExpression ns) :
    r.compileNodes ns = .error e ↔ ∃ i, r.FailsFirstAt (Node.statementsEach ns) i e := by
  rw [← firstFault?_eq_some_iff, ← error?_compileNodes r h, error?_eq_some_iff]

/-! ## Faults of texts -/

/-- A text of which no node is read is blank, and asks for nothing. -/
theorem compileWithin_of_nodes_nil {limits : Limits} {text : String} {q : Query}
    (hread : Query.parseWithin limits (Text.trim text) = .ok q) (hnodes : q.nodes = []) :
    r.compileWithin limits text = .ok .empty := by
  have hempty : (Text.trim text).isEmpty = true := by
    refine Bool.of_not_eq_false fun hne => ?_
    obtain ⟨-, hblank⟩ | ⟨hns, -⟩ := isExpression_of_parseWithin hread
    · exact not_isBlankText_trim hne hblank
    · exact hns.ne_nil hnodes
  unfold compileWithin
  simp only [hempty, if_true]

/-- **A text that is read fails as the first of its statements that fails**, in the order in which
they are written. -/
theorem compileWithin_eq_error_iff {limits : Limits} {text : String} {q : Query}
    (hread : Query.parseWithin limits (Text.trim text) = .ok q) :
    r.compileWithin limits text = .error e ↔ ∃ i, r.FailsFirstAt q.statements i e := by
  by_cases hnodes : q.nodes = []
  · -- There are no statements, and there is no fault.
    rw [compileWithin_of_nodes_nil hread hnodes, ← firstFault?_eq_some_iff, Query.statements, hnodes,
      Node.statementsEach]
    exact ⟨nofun, nofun⟩
  · obtain ⟨hns, -⟩ := spelling_of_parseWithin hread hnodes
    rw [compileWithin_of_parseWithin hread hnodes]
    exact compileNodes_eq_error_iff hns

end Registry

/-! ## The order of the text -/

/-- Does the token stand between statements, or around them, and in none? -/
def Token.isFrame : Token → Bool
  | opening | closing | connective _ => true
  | _ => false

/-- `WritesInOrder text ss`: but for parentheses and connectives, the text writes the statements
`ss`, from left to right. -/
def WritesInOrder (text : String) (ss : List Statement) : Prop :=
  ∃ ts, Layout none ts text.toList ∧ ts.filter (!·.isFrame) = ss.flatMap Statement.tokens

/-- No token of a statement is lost with the parentheses and connectives. -/
theorem Statement.filter_tokens (s : Statement) : s.tokens.filter (!·.isFrame) = s.tokens := by
  cases s with
  | comparison name op value => cases value <;> rfl
  | flag name negated => cases negated <;> rfl
  | freetext text => rfl

mutual

theorem Node.filter_tokens (n : Node) :
    n.tokens.filter (!·.isFrame) = n.statements.flatMap Statement.tokens := by
  match n with
  | .statement s =>
    rw [Node.tokens, Node.statements, s.filter_tokens, List.flatMap_singleton]
  | .connective k => rfl
  | .group ns =>
    rw [Node.tokens, Node.statements, ← Node.filter_tokensEach ns, List.filter_cons,
      List.filter_append]
    exact List.append_nil _

theorem Node.filter_tokensEach (ns : List Node) :
    (Node.tokensEach ns).filter (!·.isFrame)
      = (Node.statementsEach ns).flatMap Statement.tokens := by
  match ns with
  | [] => rfl
  | n :: ns =>
    rw [Node.tokensEach, Node.statementsEach, List.filter_append, List.flatMap_append,
      Node.filter_tokens n, Node.filter_tokensEach ns]

end

/-- **The statements of a query are in the order in which the text writes them**, whatever groups
they are in. -/
theorem writesInOrder_of_parseWithin {limits : Limits} {text : String} {q : Query}
    (h : Query.parseWithin limits text = .ok q) : WritesInOrder text q.statements := by
  refine ⟨q.tokens, ?_, Node.filter_tokensEach q.nodes⟩
  by_cases hnodes : q.nodes = []
  · obtain ⟨-, hblank⟩ | ⟨hns, -⟩ := isExpression_of_parseWithin h
    · rw [Query.tokens, hnodes]
      exact .done hblank
    · exact absurd hnodes hns.ne_nil
  · exact (spelling_of_parseWithin h hnodes).2.1

mutual

/-- Every statement of a condition can be written by itself. -/
theorem IsCondition.wellFormed_of_mem {n : Node} (hn : IsCondition n) :
    ∀ s ∈ n.statements, s.WellFormed := by
  match hn with
  | .statement hs =>
    rw [Node.statements]
    exact List.forall_mem_singleton.2 hs
  | .group h =>
    rw [Node.statements]
    exact h.wellFormed_of_mem

/-- So can every statement of an expression. -/
theorem IsExpression.wellFormed_of_mem {ns : List Node} (h : IsExpression ns) :
    ∀ s ∈ Node.statementsEach ns, s.WellFormed := by
  match h with
  | .one hn =>
    rw [Node.statementsEach, Node.statementsEach, List.append_nil]
    exact hn.wellFormed_of_mem
  | .join k hn hs =>
    rw [Node.statementsEach, Node.statementsEach, Node.statements, List.nil_append]
    exact List.forall_mem_append.2 ⟨hn.wellFormed_of_mem, hs.wellFormed_of_mem⟩

end

theorem wellFormed_of_mem_statements {limits : Limits} {text : String} {q : Query}
    (h : Query.parseWithin limits text = .ok q) : ∀ s ∈ q.statements, s.WellFormed := by
  obtain ⟨hnodes, -⟩ | ⟨hns, -⟩ := isExpression_of_parseWithin h
  · rw [Query.statements, hnodes]
    exact fun s hs => absurd hs List.not_mem_nil
  · exact hns.wellFormed_of_mem

namespace Registry

/-- A text that is no query is reported as what is wrong with it. -/
theorem compileWithin_of_parseWithin_error (r : Registry) {limits : Limits} {text : String}
    {fault : ParseError} (h : Query.parseWithin limits (Text.trim text) = .error fault) :
    r.compileWithin limits text = .error (.notQuery fault) := by
  -- The empty text, which is not read at all, would be read without a fault.
  have hne : (Text.trim text).isEmpty = false := by
    refine Bool.eq_false_iff.2 fun hempty => ?_
    rw [String.isEmpty_iff.1 hempty] at h
    cases h
  unfold compileWithin
  simp only [hne, h, Bool.false_eq_true, if_false]

/-- A text that is read compiles to a predicate if none of its statements fails. -/
theorem exists_compileWithin_eq_ok_iff {r : Registry} {limits : Limits} {text : String} {q : Query}
    (hread : Query.parseWithin limits (Text.trim text) = .ok q) :
    (∃ p, r.compileWithin limits text = .ok p) ↔
      ∀ s ∈ q.statements, ∃ p, r.compileStatement s = .ok p := by
  have hfault : error? (r.compileWithin limits text) = r.firstFault? q.statements := by
    refine Option.ext fun e => ?_
    rw [error?_eq_some_iff, firstFault?_eq_some_iff, compileWithin_eq_error_iff hread]
  rw [← error?_eq_none_iff, hfault, firstFault?, List.findSome?_eq_none_iff]
  simp only [error?_eq_none_iff]

/-- **Errors are reported in the order of the text.** A text that is no query is reported as such,
whatever the filters are. Of one that is read, the statements, which the text writes from left to
right, are compiled each as if it were a text of its own. The text fails if and only if one of them
does, and with the error of the first that does, however they are joined and grouped. -/
theorem compileWithin_in_text_order (r : Registry) (limits : Limits) (text : String) :
    (∀ fault, Query.parseWithin limits (Text.trim text) = .error fault →
      r.compileWithin limits text = .error (.notQuery fault)) ∧
    ∀ q, Query.parseWithin limits (Text.trim text) = .ok q →
      WritesInOrder (Text.trim text) q.statements ∧
      (∀ s ∈ q.statements, ∀ own : Limits, byteLength s.render.toList ≤ own.maxLength →
        r.compileWithin own s.render = r.compileStatement s) ∧
      (∀ e, r.compileWithin limits text = .error e ↔ ∃ i, r.FailsFirstAt q.statements i e) ∧
      ((∃ e, r.compileWithin limits text = .error e) ↔
        ∃ s ∈ q.statements, ∃ e, r.compileStatement s = .error e) ∧
      ((∃ p, r.compileWithin limits text = .ok p) ↔
        ∀ s ∈ q.statements, ∃ p, r.compileStatement s = .ok p) := by
  refine ⟨fun fault => compileWithin_of_parseWithin_error r, fun q hread => ?_⟩
  have hwrites := writesInOrder_of_parseWithin hread
  have hok : (∃ p, r.compileWithin limits text = .ok p) ↔
      ∀ s ∈ q.statements, ∃ p, r.compileStatement s = .ok p :=
    exists_compileWithin_eq_ok_iff hread
  have hown : ∀ s ∈ q.statements, ∀ own : Limits,
      byteLength s.render.toList ≤ own.maxLength →
      r.compileWithin own s.render = r.compileStatement s :=
    fun s hs own => r.compileWithin_render (wellFormed_of_mem_statements hread s hs)
  have hfails : (∃ e, r.compileWithin limits text = .error e) ↔
      ∃ s ∈ q.statements, ∃ e, r.compileStatement s = .error e := by
    constructor
    · rintro ⟨e, he⟩
      obtain ⟨i, ⟨s, hs, hfails⟩, -⟩ := (compileWithin_eq_error_iff hread).1 he
      exact ⟨s, List.mem_of_getElem? hs, e, hfails⟩
    · rintro ⟨s, hs, e, hfails⟩
      cases hresult : r.compileWithin limits text with
      | error e' => exact ⟨e', rfl⟩
      | ok p =>
        obtain ⟨p', hp'⟩ := hok.1 ⟨p, hresult⟩ s hs
        cases hfails.symm.trans hp'
  exact ⟨hwrites, hown, fun e => compileWithin_eq_error_iff hread, hfails, hok⟩

/-- The second of four statements is the first at fault. It is in a group, and there are two more
faults, one of them beside it and one behind the group. -/
theorem compileWithin_in_text_order_group :
    let r : Registry := ⟨[Filter.text "title", Filter.integer "year"]⟩
    let text := " title=x or (year=old and artist=x) and !title "
    let q : Query := ⟨[.statement (.comparison "title" .eq (.bare "x")), .connective .or,
      .group [.statement (.comparison "year" .eq (.bare "old")), .connective .and,
        .statement (.comparison "artist" .eq (.bare "x"))], .connective .and,
      .statement (.flag "title" true)]⟩
    let e : QueryError := .invalidValue "year" (.notInteger "old")
    let unclosed : ParseError := ⟨.unclosedGroup, 8⟩
    (Query.parseWithin {} (Text.trim text) = .ok q ∧ r.FailsFirstAt q.statements 1 e ∧
      r.compileWithin {} text = .error e) ∧
    (Query.parseWithin {} (Text.trim "nope or (year=old ") = .error unclosed ∧
      r.compileWithin {} "nope or (year=old " = .error (.notQuery unclosed)) := by
  intro r text q e unclosed
  have hread : Query.parseWithin {} (Text.trim text) = .ok q := eq_ok_of_toOption (by decide +kernel)
  have hfault : Query.parseWithin {} (Text.trim "nope or (year=old ") = .error unclosed :=
    error?_eq_some_iff.1 (by decide +kernel)
  have hfirst : r.FailsFirstAt q.statements 1 e := by
    refine ⟨⟨.comparison "year" .eq (.bare "old"), rfl, rfl⟩, fun j hj s hs => ?_⟩
    obtain rfl : j = 0 := by omega
    obtain rfl : .comparison "title" .eq (.bare "x") = s := Option.some.inj hs
    exact ⟨_, rfl⟩
  obtain ⟨-, -, herror, -⟩ := (compileWithin_in_text_order r {} text).2 q hread
  obtain ⟨hunread, -⟩ := compileWithin_in_text_order r {} "nope or (year=old "
  exact ⟨⟨hread, hfirst, (herror e).2 ⟨1, hfirst⟩⟩, hfault, hunread unclosed hfault⟩

end Registry

end FilterQuery
