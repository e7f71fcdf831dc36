/-
Values that name a filter.

A comparison may have the name of a filter for its value and then compares two attributes. What
registration accepts as a name is known to be typed in front of an operator; behind one, other rules
apply. There the reader takes all characters up to a blank or a sign, has one word for the missing
value, and leaves it to the registry whether the rest is the name of anything. The word for the
missing value is no reserved word, so nothing keeps a filter from being called that.

Every other name is read as one value that leads to its filter, in any mixture of cases. Under the
name `null` a filter can be asked, but not be compared with: there the value is the missing one.
-/
import FilterQuery.Proofs.Compile.Addressed
import FilterQuery.Proofs.Compile.Reach

set_option autoImplicit false

namespace FilterQuery

/-- What can be typed as a name can be typed as a value, and is read as one literal. -/
theorem writes_bareLiteral_of_isName {name : String} (h : isName name = true) :
    (bareLiteral name.toList).WellFormed ∧
      (bareLiteral name.toList).token.Writes name.toList := by
  obtain ⟨c, s, hname, hc, hs, -⟩ := isName_iff.1 h
  have hchars : ∀ x ∈ name.toList, isBareChar x = true := by
    rw [hname, List.forall_mem_cons]
    exact ⟨isBareChar_of_isNameChar (isNameChar_of_isNameStart hc),
      fun x hx => isBareChar_of_isNameChar (hs x hx)⟩
  exact writes_bareLiteral (by simp [hname]) hchars

namespace Filter

variable {f : Filter} {op : Operator} {meaning : ResolvedOperator} {path : String}

/-- What a typed name spells is the name of the filter. -/
theorem spells_typed_iff {name : String} (hname : Text.EqIgnoringCase name f.queryName)
    (word : String) : spells word name.toList = true ↔ f.queryName = word := by
  have hlower : name.toList.map Char.toLower = f.queryName.toList :=
    Eq.trans hname f.queryName_lowered.map_toLower
  rw [spells, hlower, beq_iff_eq, String.toList_inj]

/-- A filter that compares as usual compares with another attribute as its table says. -/
theorem compileField_of_compare (hrule : f.rule = .compare) (hpath : f.attr = some path)
    (hop : f.operators.find? op = some meaning) (target text : String) :
    f.compileField op target text = .ok (meaning.predicate path (.field target)) := by
  have hresolve : f.resolve op = .ok meaning := Traits.resolve_eq_ok_iff.2 hop
  have hpredicate : f.predicate? op (.field target)
      = .ok (some (meaning.predicate path (.field target))) := by
    rw [predicate?, hrule, PredicateRule.compare, hpath]
    simp only [hresolve, Except.map]
  unfold compileField demand
  rw [hresolve, hpredicate]
  rfl

end Filter

namespace Registry

variable {r : Registry} {f g : Filter}

/-- **A name that is typed as a value stands for the attribute of its filter**, unless it is the word
for the missing value. -/
theorem Consistent.fieldReference?_typed (h : r.Consistent) (hf : f ∈ r.filters) {name : String}
    (hname : Text.EqIgnoringCase name f.queryName) (hnull : f.queryName ≠ "null") :
    r.fieldReference? (bareLiteral name.toList) = f.attr := by
  have hget : r.get? name = some f := resolve_eq_ok_iff.1 (h.resolve_of_eqIgnoringCase hf hname)
  have hspells : ¬ spells "null" name.toList = true := by
    rw [Filter.spells_typed_iff hname]
    exact hnull
  rw [bareLiteral, if_neg hspells, String.ofList_toList, fieldReference?, hget, Option.bind_some]

/-- **Two filters with attributes can be compared by their names, unless the second is called
`null`.**

The first filter compares as usual and its table gives the operator a meaning; the operator may be in
any of its spellings and the name of the second filter in any mixture of cases. The comparison is the
one that the table names, of the two attributes, and it is negated where the table negates the
operator. The name `null` is the word for the missing value instead, so that equality asks for an
attribute without a value and its opposite for one that has a value, and all other operators are
refused. -/
theorem compileWithin_reference (hr : r.Reachable) (hg : g ∈ r.filters) (hf : f ∈ r.filters)
    {path target : String} (hpath : g.attr = some path) (htarget : f.attr = some target)
    (hrule : g.rule = .compare) {op : Operator} {meaning : ResolvedOperator}
    (hop : g.operators.find? op = some meaning) {symbol : String} (hsymbol : symbol ∈ op.spellings)
    {name : String} (hname : Text.EqIgnoringCase name f.queryName) {limits : Limits}
    (hlength : byteLength (g.queryName ++ symbol ++ name).toList ≤ limits.maxLength) :
    (f.queryName ≠ "null" → r.compileWithin limits (g.queryName ++ symbol ++ name)
      = .ok ((Predicate.compare path meaning.comparison (.field target)).negateIf
          meaning.negated)) ∧
    (f.queryName = "null" → r.compileWithin limits (g.queryName ++ symbol ++ name)
      = match op with
        | .eq => .ok (.isNull path)
        | .notEq => .ok (.not (.isNull path))
        | _ => .error (.invalidOperator g.name op)) := by
  have hconsistent : r.Consistent := hr.consistent
  have htyped : FilterQuery.isName name = true := hname.isName_eq.trans (hconsistent.isName f hf)
  obtain ⟨hvalue, hwrites⟩ := writes_bareLiteral_of_isName htyped
  have hcompile : r.compileWithin limits (g.queryName ++ symbol ++ name)
      = r.compileLiteral g op (bareLiteral name.toList) := by
    have hgap : IsBlankText "".toList := isBlankText_nil
    have htext : g.queryName ++ "" ++ symbol ++ "" ++ name = g.queryName ++ symbol ++ name := by
      simp only [String.append_empty]
    rw [← htext] at hlength ⊢
    rw [r.compileWithin_comparison (hconsistent.isName g hg) hsymbol hvalue hgap hgap hwrites
      hlength]
    exact hconsistent.compileComparison_eq hg rfl op _
  rw [hcompile]
  unfold compileLiteral
  constructor
  · intro hnull
    rw [hconsistent.fieldReference?_typed hf hname hnull, htarget]
    exact Filter.compileField_of_compare hrule hpath hop target _
  · intro hnull
    -- The missing value names no filter, whatever filters there are.
    rw [bareLiteral, if_pos ((Filter.spells_typed_iff hname "null").2 hnull)]
    simp only [fieldReference?, Filter.compileNull, hpath]
    cases op <;> rfl

/-- A filter is compared with others by names in mixed cases, in the second spelling of an operator,
and there is a filter that can only be asked whether its name is the missing value. -/
theorem compileWithin_reference_mixed :
    let r : Registry := ⟨[{ Filter.text "Title" with attr := some "disc.title" },
      Filter.caseSensitive "artist", Filter.integer "NULL"]⟩
    r.Reachable ∧
      r.compileWithin {} "title!:ARTist"
        = .ok (.not (.compare "disc.title" .icontains (.field "artist"))) ∧
      r.compileWithin {} "artist=>Title"
        = .ok (.compare "artist" .gte (.field "disc.title")) ∧
      r.compileWithin {} "title!=nULL" = .ok (.not (.isNull "disc.title")) ∧
      r.compileWithin {} "title>null" = .error (.invalidOperator "Title" .gt) := by
  intro r
  have hr : r.Reachable := by
    refine .register (.register (.register .empty (register_eq_ok_iff.2 ⟨?_, rfl⟩))
      (register_eq_ok_iff.2 ⟨?_, rfl⟩)) (register_eq_ok_iff.2 ⟨?_, rfl⟩)
    all_goals decide
  have htitle : r.filters[0] ∈ r.filters := List.getElem_mem _
  have hartist : r.filters[1] ∈ r.filters := List.getElem_mem _
  have hnull : r.filters[2] ∈ r.filters := List.getElem_mem _
  refine ⟨hr, ?_, ?_, ?_, ?_⟩
  · have hop : r.filters[0].operators.find? .notContains = some ⟨.icontains, true⟩ := rfl
    have hsymbol : "!:" ∈ Operator.notContains.spellings := by decide
    have hname : Text.EqIgnoringCase "ARTist" "artist" := by decide
    exact (compileWithin_reference hr htitle hartist rfl rfl rfl hop hsymbol hname (by decide)).1
      (by decide)
  · have hop : r.filters[1].operators.find? .gte = some ⟨.gte, false⟩ := rfl
    have hsymbol : "=>" ∈ Operator.gte.spellings := by decide
    have hname : Text.EqIgnoringCase "Title" "title" := by decide
    exact (compileWithin_reference hr hartist htitle rfl rfl rfl hop hsymbol hname (by decide)).1
      (by decide)
  · have hop : r.filters[0].operators.find? .notEq = some ⟨.iexact, true⟩ := rfl
    have hsymbol : "!=" ∈ Operator.notEq.spellings := by decide
    have hname : Text.EqIgnoringCase "nULL" "null" := by decide
    exact (compileWithin_reference hr htitle hnull rfl rfl rfl hop hsymbol hname (by decide)).2 rfl
  · have hop : r.filters[0].operators.find? .gt = some ⟨.gt, false⟩ := rfl
    have hsymbol : ">" ∈ Operator.gt.spellings := by decide
    have hname : Text.EqIgnoringCase "null" "null" := rfl
    exact (compileWithin_reference hr htitle hnull rfl rfl rfl hop hsymbol hname (by decide)).2 rfl

/-- **Not every filter can be compared with by its name**: one that is called `null` cannot. -/
theorem not_forall_compile_reference :
    ¬ ∀ (r : Registry) (f g : Filter) (path target : String) (op : Operator)
      (meaning : ResolvedOperator) (name : String), r.Reachable → g ∈ r.filters → f ∈ r.filters →
      g.attr = some path → f.attr = some target → g.rule = .compare →
      g.operators.find? op = some meaning → Text.EqIgnoringCase name f.queryName →
      r.compile (g.queryName ++ op.symbol ++ name)
        = .ok ((Predicate.compare path meaning.comparison (.field target)).negateIf
          meaning.negated) := by
  intro h
  let r : Registry := ⟨[Filter.text "title", Filter.text "null"]⟩
  have hr : r.Reachable := by
    refine .register (.register .empty (register_eq_ok_iff.2 ⟨?_, rfl⟩))
      (register_eq_ok_iff.2 ⟨?_, rfl⟩)
    all_goals decide
  have hcompile : r.compile "title=null" = .ok (.isNull "title") := by
    have hread : Query.parseWithin {} (Text.trim "title=null")
        = .ok ⟨[.statement (.comparison "title" .eq .null)]⟩ := by decide +kernel
    rw [compile, compileWithin_of_parseWithin hread (List.cons_ne_nil _ _)]
    rfl
  have htitle : r.filters[0] ∈ r.filters := List.getElem_mem _
  have hnull : r.filters[1] ∈ r.filters := List.getElem_mem _
  have hclaimed := h r _ _ "title" "null" .eq ⟨.iexact, false⟩ "null" hr htitle hnull rfl rfl rfl rfl
    rfl
  nomatch hcompile.symm.trans hclaimed

end Registry

end FilterQuery
