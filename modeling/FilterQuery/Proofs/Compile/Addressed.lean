/-
Every filter is reached by its name.

Between a name that is registered and a name that is typed stand several rules that know nothing of
each other: what registration accepts, where the reader ends a name, which words it keeps for itself,
how case is folded, and what is taken for the key of another filter. A filter whose name one of them
treats differently could never be asked, or another filter would answer in its place. None of this
happens. A filter that is compared with quoted text gives its own answer (`Filter.answer`) and no
other filter has a say in it; and the key of the record it refers to is reached by its name and the
suffix for keys. Its name may be typed in any mixture of cases.
-/
import FilterQuery.Proofs.Compile.Statements
import FilterQuery.Proofs.Registry.Runs

set_option autoImplicit false

namespace FilterQuery

/-- What a filter answers to an operator and the text of a value, by all that it consists of: how it
reads the text, then whether it has the operator, then what its rule makes of both. -/
def Filter.answer (f : Filter) (op : Operator) (text : String) : Except QueryError Predicate :=
  match f.read text with
  | .error e => .error (.invalidValue f.name e)
  | .ok v =>
    if f.operators.accepts op then
      match f.predicate? op (.value v) with
      | .error e => .error e
      | .ok none => .error (.unknownValue f.name text)
      | .ok (some p) => .ok p
    else .error (.invalidOperator f.name op)

/-- A filter that is compared with the text of a value answers for itself. -/
theorem Filter.compileValue_eq_answer (f : Filter) (op : Operator) (text : String) :
    f.compileValue op text = f.answer op text := by
  unfold compileValue answer
  cases f.read text with
  | error e => rfl
  | ok v =>
    dsimp only
    unfold Traits.resolve OperatorTable.accepts demand
    cases f.operators.find? op with
    | none => rfl
    | some meaning =>
      -- The operator is there, so what is left is what the rule makes of the value.
      simp only [Option.isSome_some, if_true, Except.bind]
      cases f.predicate? op (.value v) with
      | error e => rfl
      | ok p => cases p <;> rfl

namespace Registry

variable {r : Registry} {f : Filter} {name : String}

/-- **The name of a filter leads to it in every mixture of cases.** -/
theorem Consistent.resolve_of_eqIgnoringCase (h : r.Consistent) (hf : f ∈ r.filters)
    (hname : Text.EqIgnoringCase name f.queryName) : r.resolve name = .ok f := by
  have hlower : Text.lowercase name = f.queryName := by
    rw [hname.lowercase_eq, h.lowered f hf]
  exact resolve_eq_ok_iff.2 ((h.get?_eq_some_iff name f).2 ⟨hf, hlower.symm⟩)

/-- A comparison with a literal is one of the filter whose name is in front of it. -/
theorem Consistent.compileComparison_eq (h : r.Consistent) (hf : f ∈ r.filters)
    (hname : Text.EqIgnoringCase name f.queryName) (op : Operator) (v : Literal) :
    r.compileComparison name op v = r.compileLiteral f op v := by
  have hnokey : dropKeySuffix? name = none :=
    hname.dropKeySuffix?_eq_none (h.dropKeySuffix?_queryName hf)
  unfold compileComparison
  rw [hnokey]
  simp only [h.resolve_of_eqIgnoringCase hf hname, Except.bind]

/-- A filter that is compared with quoted text answers for itself. -/
theorem Consistent.compileComparison_quoted (h : r.Consistent) (hf : f ∈ r.filters)
    (hname : Text.EqIgnoringCase name f.queryName) (op : Operator) (text : String) :
    r.compileComparison name op (.quoted text) = f.answer op text := by
  rw [h.compileComparison_eq hf hname]
  -- Quoted text is never taken for the name of a filter or for the missing value.
  exact f.compileValue_eq_answer op text

/-- **Every filter that has been registered can be asked, and it alone answers.**

Its name may be typed in any mixture of cases. Followed by an operator and quoted text, whatever the
text, it compiles to what the filter answers: the error with which it refuses the text, or that it
does not have the operator, or what its rule makes of the value, where no predicate means that the
value is not known. Followed by the suffix for keys and a number it compares the key behind the
attribute of the filter, or asks for nothing if there is no attribute. -/
theorem compileWithin_name (hr : r.Reachable) (hf : f ∈ r.filters)
    (hname : Text.EqIgnoringCase name f.queryName) (limits : Limits) :
    (∀ (op : Operator) (text : String),
      byteLength (name ++ op.symbol ++ Text.quote text).toList ≤ limits.maxLength →
      r.compileWithin limits (name ++ op.symbol ++ Text.quote text) = f.answer op text) ∧
    ∀ key : Int64,
      byteLength (name ++ ".pk=" ++ Number.showInt64 key).toList ≤ limits.maxLength →
      r.compileWithin limits (name ++ ".pk=" ++ Number.showInt64 key)
        = .ok (match f.attr with
          | some attr => .compare (attr ++ ".pk") .exact (.value (.int key))
          | none => .empty) := by
  have hconsistent : r.Consistent := hr.consistent
  have htyped : FilterQuery.isName name = true :=
    hname.isName_eq.trans (hconsistent.isName f hf)
  constructor
  · intro op text hlength
    have hstatement : (Statement.comparison name op (.quoted text)).WellFormed := ⟨htyped, trivial⟩
    have hcompile := r.compileWithin_render hstatement hlength
    rw [compileStatement, hconsistent.compileComparison_quoted hf hname] at hcompile
    exact hcompile
  · intro key hlength
    let s : Statement := .comparison (name ++ ".pk") .eq (.bare (Number.showInt64 key))
    have hstatement : s.WellFormed :=
      ⟨isName_append_key htyped, (Number.isNumberText_showInt64 key).wellFormed⟩
    have htext : s.render = name ++ ".pk=" ++ Number.showInt64 key := by
      simp [s, Statement.render, Literal.render, Operator.symbol, String.append_assoc]
    rw [← htext] at hlength ⊢
    rw [r.compileWithin_render hstatement hlength]
    exact compileComparison_key (hconsistent.resolve_of_eqIgnoringCase hf hname) key

/-- One filter has the name of another and more behind it, and one a name that begins with a
reserved word. The value is the name of the first filter, in quotes; the second does not accept the
operator; the third cannot read the text. -/
theorem compileWithin_name_mixed :
    let r : Registry := ⟨[{ Filter.text "Artist" with attr := some "disc.artist" },
      { Filter.reference "artist.name" (fun _ => []) with attr := none }, Filter.integer "Order"]⟩
    let limits : Limits := ⟨0, 20⟩
    r.Reachable ∧
      r.compileWithin limits "aRTist!:\"artist\"" = .ok (.not
        (.compare "disc.artist" .icontains (.value (.text "artist")))) ∧
      r.compileWithin limits "Artist.NAME>\"\"" = .error (.invalidOperator "artist.name" .gt) ∧
      r.compileWithin limits "oRDER=\"or\"" = .error (.invalidValue "Order" (.notInteger "or")) ∧
      r.compileWithin limits "ORDER.pk=-7"
        = .ok (.compare "Order.pk" .exact (.value (.int (-7)))) ∧
      r.compileWithin limits "Artist.Name.pk=12" = .ok .empty := by
  intro r limits
  have hr : r.Reachable := by
    refine .register (.register (.register .empty (register_eq_ok_iff.2 ⟨?_, rfl⟩))
      (register_eq_ok_iff.2 ⟨?_, rfl⟩)) (register_eq_ok_iff.2 ⟨?_, rfl⟩)
    all_goals decide
  have hask (f : Filter) (hf : f ∈ r.filters) (name : String)
      (hname : Text.EqIgnoringCase name f.queryName) := compileWithin_name hr hf hname limits
  have h0 : r.filters[0] ∈ r.filters := List.getElem_mem _
  have h1 : r.filters[1] ∈ r.filters := List.getElem_mem _
  have h2 : r.filters[2] ∈ r.filters := List.getElem_mem _
  refine ⟨hr, ?_, ?_, ?_, ?_, ?_⟩
  · exact (hask _ h0 "aRTist" (by decide)).1 .notContains "artist" (by decide)
  · exact (hask _ h1 "Artist.NAME" (by decide)).1 .gt "" (by decide)
  · exact (hask _ h2 "oRDER" (by decide)).1 .eq "or" (by decide)
  · exact (hask _ h2 "ORDER" (by decide)).2 (-7) (by decide)
  · exact (hask _ h1 "Artist.Name" (by decide)).2 12 (by decide)

end Registry

end FilterQuery
