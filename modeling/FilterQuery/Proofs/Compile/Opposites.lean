/-
Operators and their opposites.

`!=` asks for the opposite of `=`, and `!:` for that of `:`, but nowhere is the one compiled by way
of the other. Each table says by itself which of its operators are negated, each rule negates what
it makes, and so does the test for a missing value. In front of these stand checks that an operator
may fail, in an order that depends on what it is compared with: a value is read before the table is
asked, the attribute of another filter is not read at all, and the missing value does not go by the
table. An operator that goes another way than its opposite would ask for more than the opposite, or
for less.

No operator does. What is carried through all of the ways is a relation between two outcomes
(`Opposed`): the predicate is negated and an error is the same, but for the operator that an error
may name. As only the filters have a say in the operators, this is known of all filters that have
the table and the rule of one of the usual kinds, whatever else has been changed about them.
-/
import FilterQuery.Proofs.Compile.Outcome
import FilterQuery.Proofs.Compile.Reach
import FilterQuery.Proofs.Kinds

set_option autoImplicit false

namespace FilterQuery

/-! ## Tables -/

/-- `op.Opposite op'`: what the second operator asks for is the opposite of what the first does. -/
inductive Operator.Opposite : Operator → Operator → Prop
  | equals : Opposite .eq .notEq
  | contains : Opposite .contains .notContains

/-- Both operators stand for one comparison, of which the second is the opposite, or the table has
neither of them. Each table has equality. -/
inductive OperatorTable.Opposes (t : OperatorTable) (op op' : Operator) : Prop
  | both (c : Comparison) (h : t.find? op = some ⟨c, false⟩) (h' : t.find? op' = some ⟨c, true⟩)
  | neither (hop : op ≠ .eq) (h : t.find? op = .none) (h' : t.find? op' = .none)

/-- A filter has the operators of a usual kind and makes predicates as that kind does. How it reads
values is its own. -/
def Filter.OperatesAsUsual (f : Filter) : Prop :=
  ∃ g : Filter, g.IsUsual ∧ f.operators = g.operators ∧ f.rule = g.rule

variable {op op' : Operator}

namespace Filter

variable {f : Filter}

theorem IsUsual.operatesAsUsual (h : f.IsUsual) : f.OperatesAsUsual :=
  ⟨f, h, rfl, rfl⟩

/-- Each of the usual kinds makes predicates by one of the rules of this library. -/
theorem IsUsual.isUsual_rule (h : f.IsUsual) : f.rule.IsUsual := by
  have hrule {g : Filter} (h : f.Resembles g) (hg : g.rule.IsUsual) : f.rule.IsUsual :=
    h.rule ▸ hg
  cases h with
  | tristate _ h => exact hrule h .tristate
  | reference _ keys h => exact hrule h (.reference keys)
  | text _ h | caseSensitive _ h | email _ h | url _ _ h | boolean _ h => exact hrule h .compare
  | integer _ h | float _ h | decimal _ h | choice _ _ h => exact hrule h .compare
  | date _ _ h | dateTime _ _ h | time _ _ h => exact hrule h .compare

/-- **The tables of the usual kinds negate an operator wherever they have its opposite.** -/
theorem OperatesAsUsual.opposes (h : f.OperatesAsUsual) (hop : op.Opposite op') :
    f.operators.Opposes op op' := by
  obtain ⟨g, hg, hoperators, -⟩ := h
  rw [hoperators]
  cases hop with
  | equals =>
    obtain htable | htable | htable | htable := hg.operators_eq
    · rw [htable]
      exact .both .iexact rfl rfl
    all_goals
      rw [htable]
      exact .both .exact rfl rfl
  | contains =>
    obtain htable | htable | htable | htable := hg.operators_eq
    · rw [htable]
      exact .both .icontains rfl rfl
    · rw [htable]
      exact .both .contains rfl rfl
    -- Values that are only equal or in order contain nothing.
    all_goals
      rw [htable]
      exact .neither (by decide) rfl rfl

end Filter

/-! ## Rules -/

namespace PredicateRule

section Opposite

variable {t : Filter.Traits} {c : Comparison} (h : t.operators.find? op = some ⟨c, false⟩)
  (h' : t.operators.find? op' = some ⟨c, true⟩) (operand : Operand)

include h h'

theorem compare_opposite :
    compare t op' operand = (compare t op operand).map (Option.map .negate) := by
  unfold compare
  cases t.attr with
  | none => rfl
  | some attr =>
    dsimp only
    rw [Filter.Traits.resolve_eq_ok_iff.2 h, Filter.Traits.resolve_eq_ok_iff.2 h']
    rfl

theorem tristate_opposite :
    tristate t op' operand = (tristate t op operand).map (Option.map .negate) := by
  by_cases hempty : operand = .value (.text "")
  · subst hempty
    simp only [tristate]
    rw [Filter.Traits.resolve_eq_ok_iff.2 h, Filter.Traits.resolve_eq_ok_iff.2 h']
    cases t.attr <;> rfl
  · have hcompare (o : Operator) : tristate t o operand = compare t o operand := by
      unfold tristate
      split
      · exact absurd rfl hempty
      · rfl
    rw [hcompare, hcompare, compare_opposite h h']

theorem reference_opposite (keys : String → List Int64) :
    reference keys t op' operand = (reference keys t op operand).map (Option.map .negate) := by
  unfold reference
  cases t.attr with
  | none => rfl
  | some attr =>
    dsimp only
    rw [Filter.Traits.resolve_eq_ok_iff.2 h, Filter.Traits.resolve_eq_ok_iff.2 h']
    simp only [Except.bind]
    -- A name that no record has and one that several have are refused before anything is negated.
    split
    · split <;> rfl
    · rfl

/-- **The rules of this library negate the predicate where the table negates the operator**, and
fail for one operator as they fail for the other. -/
theorem IsUsual.opposite {rule : PredicateRule} (hrule : rule.IsUsual) :
    rule t op' operand = (rule t op operand).map (Option.map .negate) := by
  cases hrule with
  | compare => exact compare_opposite h h' operand
  | tristate => exact tristate_opposite h h' operand
  | reference keys => exact reference_opposite h h' operand keys

end Opposite

end PredicateRule

/-! ## Outcomes -/

/-- `Opposed op op' x y`: if `x` is the outcome with the operator `op`, then `y` may be that with its
opposite `op'`. A filter that has neither of them names the one that it has been asked for. -/
inductive Opposed (op op' : Operator) :
    Except QueryError Predicate → Except QueryError Predicate → Prop
  | negated (x : Except QueryError Predicate) : Opposed op op' x (x.map .negate)
  | refused (hop : op ≠ .eq) (name : String) :
      Opposed op op' (.error (.invalidOperator name op)) (.error (.invalidOperator name op'))

namespace Opposed

variable {x y : Except QueryError Predicate}

/-- What comes before both of the outcomes fails for both or for neither. -/
theorem bind {α : Type} (a : Except QueryError α) {f g : α → Except QueryError Predicate}
    (h : ∀ b, a = .ok b → Opposed op op' (f b) (g b)) : Opposed op op' (a.bind f) (a.bind g) := by
  cases a with
  | error e => exact .negated (.error e)
  | ok b => exact h b rfl

/-- Equality is never refused. -/
theorem eq_map (h : Opposed .eq op' x y) : y = x.map .negate := by
  cases h with
  | negated => rfl
  | refused hop => exact absurd rfl hop

theorem toOption_eq (h : Opposed op op' x y) : y.toOption = x.toOption.map .negate := by
  cases h with
  | negated => exact toOption_map x _
  | refused => rfl

end Opposed

namespace Filter

variable {f : Filter}

/-- Both operators are looked up and then the predicate is made, from the same operand. -/
theorem OperatesAsUsual.opposed (h : f.OperatesAsUsual) (hop : op.Opposite op')
    (operand : Operand) (text : String) :
    Opposed op op' ((f.resolve op).bind fun _ => f.demand op operand text)
      ((f.resolve op').bind fun _ => f.demand op' operand text) := by
  cases h.opposes hop with
  | both c hfind hfind' =>
    have hrule : f.rule.IsUsual := by
      obtain ⟨g, hg, -, hrule⟩ := h
      exact hrule ▸ hg.isUsual_rule
    have hdemand : f.demand op' operand text = (f.demand op operand text).map .negate := by
      unfold demand predicate?
      rw [PredicateRule.IsUsual.opposite hfind hfind' operand hrule]
      cases f.rule f.toTraits op operand with
      | error e => rfl
      | ok p => cases p <;> rfl
    rw [Traits.resolve_eq_ok_iff.2 hfind, Traits.resolve_eq_ok_iff.2 hfind']
    simp only [Except.bind]
    rw [hdemand]
    exact .negated _
  | neither hne hfind hfind' =>
    unfold Traits.resolve
    rw [hfind, hfind']
    exact .refused hne f.name

/-- The test for a missing value does not ask the table. -/
theorem opposed_compileNull (f : Filter) (hop : op.Opposite op') :
    Opposed op op' (f.compileNull op) (f.compileNull op') := by
  cases hop with
  | equals => exact .negated (.ok _)
  | contains => exact .refused (by decide) f.name

end Filter

/-! ## Comparisons -/

namespace Registry

variable {r : Registry}

/-- A filter that is compared with a literal: the attribute of another filter, the missing value or
a value. -/
theorem opposed_compileLiteral {f : Filter} (h : f.OperatesAsUsual) (hop : op.Opposite op')
    (v : Literal) : Opposed op op' (r.compileLiteral f op v) (r.compileLiteral f op' v) := by
  have hvalue (text : String) : Opposed op op' (f.compileValue op text)
      (f.compileValue op' text) := by
    unfold Filter.compileValue
    cases f.read text with
    | error e => exact .negated (.error _)
    | ok w => exact h.opposed hop (.value w) text
  unfold compileLiteral
  cases r.fieldReference? v with
  | some path => exact h.opposed hop (.field path) v.text
  | none =>
    cases v with
    | null => exact f.opposed_compileNull hop
    | bare text => exact hvalue text
    | quoted text => exact hvalue text

/-- **A comparison with the opposite operator has the opposite outcome**, unless it is one of
keys. -/
theorem opposed_compileComparison (hr : ∀ f ∈ r.filters, f.OperatesAsUsual)
    (hop : op.Opposite op') {name : String} (hkey : dropKeySuffix? name = none) (v : Literal) :
    Opposed op op' (r.compileComparison name op v) (r.compileComparison name op' v) := by
  unfold compileComparison
  rw [hkey]
  exact .bind _ fun f hf => opposed_compileLiteral (hr f (mem_of_resolve hf)) hop v

/-- **An operator and its opposite ask for opposites.**

The filters have the tables and the rules of the usual kinds. A comparison by `!=` compiles to the
negation of what the comparison by `=` of the same name with the same literal compiles to, and fails
with the same error; one by `!:` compiles if and only if the one by `:` does, and to the negation of
what that one compiles to. So do the texts of these comparisons, in any spelling of the literal and
with blanks around the operator or without. The name is that of a filter or of none, but does not
end in the suffix for keys. -/
theorem compile_opposite (hr : ∀ f ∈ r.filters, f.OperatesAsUsual) {name : String}
    (hkey : dropKeySuffix? name = none) (v : Literal) :
    r.compileComparison name .notEq v = (r.compileComparison name .eq v).map .negate ∧
    (r.compileComparison name .notContains v).toOption
      = (r.compileComparison name .contains v).toOption.map .negate ∧
    ∀ (limits : Limits) (gap gap' rhs : String), FilterQuery.isName name = true → v.WellFormed →
      IsBlankText gap.toList → IsBlankText gap'.toList → v.token.Writes rhs.toList →
      byteLength (name ++ gap ++ "!=" ++ gap' ++ rhs).toList ≤ limits.maxLength →
      r.compileWithin limits (name ++ gap ++ "!=" ++ gap' ++ rhs)
        = (r.compileWithin limits (name ++ gap ++ "=" ++ gap' ++ rhs)).map .negate ∧
      (r.compileWithin limits (name ++ gap ++ "!:" ++ gap' ++ rhs)).toOption
        = (r.compileWithin limits (name ++ gap ++ ":" ++ gap' ++ rhs)).toOption.map .negate := by
  have hequals : r.compileComparison name .notEq v = (r.compileComparison name .eq v).map .negate :=
    (opposed_compileComparison hr .equals hkey v).eq_map
  have hcontains : (r.compileComparison name .notContains v).toOption
      = (r.compileComparison name .contains v).toOption.map .negate :=
    (opposed_compileComparison hr .contains hkey v).toOption_eq
  refine ⟨hequals, hcontains, ?_⟩
  intro limits gap gap' rhs hname hv hgap hgap' hrhs hlength
  -- No symbol is longer than the one that is known to fit.
  have htext (op : Operator) (symbol : String) (hsymbol : symbol ∈ op.spellings)
      (hshort : byteLength symbol.toList ≤ byteLength "!=".toList) :
      r.compileWithin limits (name ++ gap ++ symbol ++ gap' ++ rhs)
        = r.compileComparison name op v := by
    apply r.compileWithin_comparison hname hsymbol hv hgap hgap' hrhs
    simp only [String.toList_append, byteLength_append] at hlength ⊢
    omega
  rw [htext .notEq "!=" (by decide) (by decide), htext .eq "=" (by decide) (by decide),
    htext .notContains "!:" (by decide) (by decide), htext .contains ":" (by decide) (by decide)]
  exact ⟨hequals, hcontains⟩

/-- Empty text asks a truth value whether it is unknown; a name that two records have cannot be told
apart; a value that names a filter stands for its attribute. -/
theorem compile_opposite_mixed :
    let r : Registry := ⟨[Filter.tristate "live", Filter.reference "artist" (fun _ => [3, 4]),
      { Filter.text "Title" with attr := some "disc.title" }]⟩
    (∀ f ∈ r.filters, f.OperatesAsUsual) ∧
      r.compile "live != \"\"" = (r.compile "live = \"\"").map .negate ∧
      r.compileComparison "LIVE" .notEq (.quoted "") = .ok (.not (.isNull "live")) ∧
      r.compileComparison "artist" .notEq (.quoted "ELO")
        = .error (.ambiguousValue "artist" "ELO") ∧
      (r.compileComparison "title" .notContains (.bare "Live")).toOption
        = some (.not (.compare "disc.title" .icontains (.field "live"))) := by
  intro r
  have hr : ∀ f ∈ r.filters, f.OperatesAsUsual := by
    refine List.forall_mem_cons.2 ⟨?_, List.forall_mem_cons.2 ⟨?_, List.forall_mem_singleton.2 ?_⟩⟩
    · exact (Filter.IsUsual.tristate "live" ⟨rfl, rfl, rfl⟩).operatesAsUsual
    · exact (Filter.IsUsual.reference "artist" _ ⟨rfl, rfl, rfl⟩).operatesAsUsual
    · exact (Filter.IsUsual.text "Title" ⟨rfl, rfl, rfl⟩).operatesAsUsual
  have hblank : IsBlankText " ".toList := List.forall_mem_singleton.2 (by decide)
  have hrhs : (Literal.quoted "").token.Writes "\"\"".toList := Literal.writes_render (.quoted "")
  have hkey : dropKeySuffix? "live" = none := by decide
  have hlive := (compile_opposite hr hkey (.quoted "")).2.2 {} " " " " "\"\"" (by decide) trivial
    hblank hblank hrhs (by decide)
  have htext : "live" ++ " " ++ "!=" ++ " " ++ "\"\"" = "live != \"\"" := by decide
  have htext' : "live" ++ " " ++ "=" ++ " " ++ "\"\"" = "live = \"\"" := by decide
  rw [htext, htext'] at hlive
  refine ⟨hr, hlive.1, ?_, ?_, ?_⟩
  · exact (compile_opposite hr (by decide) (.quoted "")).1
  · exact (compile_opposite hr (by decide) (.quoted "ELO")).1
  · exact (compile_opposite hr (by decide) (.bare "Live")).2.1

end Registry

end FilterQuery
