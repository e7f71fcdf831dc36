/-
Bound values as text have the structure of bound values.

A value that is bound to a filter may hold any text at all: quotes, backslashes, parentheses, the
words of the grammar. What is written for it must nevertheless be one literal of one comparison, and
what is written for all values must be their conditions and nothing else. The query that is meant is
laid down here as a list of nodes, without any text (`BoundValues.query`), and the main statement is
that the text that is written is read as exactly that query. Nothing is asked of the filters, nor of
what they make of the values; of the values it is only asked that a decimal is one.
-/
import FilterQuery.Proofs.Bound
import FilterQuery.Proofs.Query.Joined

set_option autoImplicit false

namespace FilterQuery

/-! ## The query that is meant -/

namespace Filter

/-- A comparison of the filter with a literal. -/
def comparison (f : Filter) (op : Operator) (v : Literal) : Node :=
  .statement (.comparison f.queryName op v)

/-- The condition for what is bound to the filter: one comparison for a single value or a record,
and a group with one comparison for each value of a list. -/
def condition (f : Filter) : BoundValue → Node
  | .single v => f.comparison f.formOperator v.asLiteral
  | .list vs =>
    .group ((vs.map fun v => f.comparison f.formOperator v.asLiteral).intersperse (.connective .or))
  | .record _ (some name) => f.comparison f.formOperator (.quoted name)
  | .record key none =>
    .statement (.comparison (f.queryName ++ ".pk") .eq (.bare (Number.showInt64 key)))

/-- The condition for what is bound to the filter, if anything is that is not blank. -/
def condition? (f : Filter) (b : BoundValues) : Option Node :=
  match b.get? f.name with
  | some v => if v.isBlank then none else some (f.condition v)
  | none => none

end Filter

/-- The condition for a search for text: a group with one comparison for each filter that is
searched, and none if there is no such filter. -/
def Registry.searchCondition? (r : Registry) (text : String) : Option Node :=
  match r.freetextFilters with
  | [] => none
  | fs => some (.group ((fs.map fun f => f.comparison .contains (.quoted text)).intersperse
      (.connective .or)))

/-- The query that bound values are meant to be: the conditions of the filters in the order in which
they were registered, the search for text last, and `and` in between. -/
def BoundValues.query (b : BoundValues) (r : Registry) : Query :=
  ⟨(r.filters.filterMap (·.condition? b) ++
      (b.freetext?.bind r.searchCondition?).toList).intersperse (.connective .and)⟩

/-! ## Values -/

/-- A value that can be typed: a decimal has been read as one. Every double can be, whether or not
it is a number. -/
def Value.Typable : Value → Prop
  | decimal s => ∃ typed, Value.readDecimal typed = .ok (.decimal s)
  | _ => True

/-- The words for doubles that are no numbers can be typed, too. -/
theorem wellFormed_bare_showDouble (x : Float) :
    (Literal.bare (Number.showDouble x)).WellFormed := by
  by_cases hx : (Number.DoubleKind.ofBits x.toBits.toNat).IsFinite
  · exact (Number.isNumberText_showDouble hx).wellFormed
  have hword : Number.showDouble x ∈ ["NaN", "inf", "-inf"] := by
    unfold Number.showDouble
    cases hkind : Number.DoubleKind.ofBits x.toBits.toNat with
    | notANumber => decide
    | infinite negative => cases negative <;> decide
    | zero negative =>
      rw [hkind] at hx
      exact absurd trivial hx
    | finite negative magnitude =>
      rw [hkind] at hx
      exact absurd trivial hx
  simp only [List.mem_cons, List.not_mem_nil, or_false] at hword
  rcases hword with h | h | h
  all_goals
    rw [h]
    exact ⟨by decide, List.all_eq_true.1 (by decide +kernel), by decide⟩

/-- Every value has a literal that can be typed. -/
theorem Value.Typable.wellFormed {v : Value} (hv : v.Typable) : v.asLiteral.WellFormed := by
  cases v with
  | float x => exact wellFormed_bare_showDouble x
  | decimal s =>
    have hwritable : (Value.decimal s).Writable := hv
    exact hwritable.isPlain.wellFormed
  | text s => trivial
  | int n => exact (Number.isNumberText_showInt64 n).wellFormed
  | bool b =>
    have hwritable : (Value.bool b).Writable := trivial
    exact hwritable.isPlain.wellFormed
  | date d => trivial
  | dateTime dt => trivial
  | time t => trivial

/-! ## Clauses -/

namespace Registry.WellFormed

variable {r : Registry} {f : Filter}

/-- What is written for a comparison with a literal is that comparison. -/
theorem writesCondition_literal (h : r.WellFormed) (hf : f ∈ r.filters) (depth : Nat)
    (op : Operator) {v : Literal} (hv : v.WellFormed) :
    WritesCondition depth (f.writeComparison op v.render) (f.comparison op v) :=
  writesCondition_comparison depth (h.isName f hf) op hv

/-- What is written for a comparison with a value is a comparison with its literal. -/
theorem writesCondition_value (h : r.WellFormed) (hf : f ∈ r.filters) (depth : Nat) (op : Operator)
    {v : Value} (hv : v.Typable) :
    WritesCondition depth (f.writeComparison op v.literal) (f.comparison op v.asLiteral) := by
  have hliteral := h.writesCondition_literal hf depth op hv.wellFormed
  rwa [v.render_asLiteral] at hliteral

/-- **What is written for the value of a filter is its condition.** -/
theorem writesCondition_write (h : r.WellFormed) (hf : f ∈ r.filters) {v : BoundValue}
    (hblank : v.isBlank = false) (hv : ∀ x ∈ v.values, x.Typable) :
    WritesCondition 1 (f.write v) (f.condition v) := by
  cases v with
  | single x => exact h.writesCondition_value hf 1 _ (hv x List.mem_cons_self)
  | list vs =>
    cases vs with
    | nil => simp [BoundValue.isBlank] at hblank
    | cons x xs =>
      have heach : ∀ y ∈ x :: xs, WritesCondition 0 (f.writeComparison f.formOperator y.literal)
          (f.comparison f.formOperator y.asLiteral) :=
        fun y hy => h.writesCondition_value hf 0 _ (hv y hy)
      exact (writesExpression_intersperse .or " OR " "OR".toList (by decide) rfl heach).group
  | record key name =>
    cases name with
    | some name => exact h.writesCondition_literal hf 1 _ (v := .quoted name) trivial
    | none =>
      have hkey := writesCondition_comparison 1 (isName_append_key (h.isName f hf)) .eq
        (Number.isNumberText_showInt64 key).wellFormed
      have htext : f.write (.record key none)
          = f.queryName ++ ".pk" ++ Operator.eq.symbol
            ++ (Literal.bare (Number.showInt64 key)).render := by
        simp [Filter.write, Operator.symbol, Literal.render, String.append_assoc]
      rw [htext]
      exact hkey

/-- **What is written for a search is its condition**, and nothing is if no filter is searched. -/
theorem writeFreetext_eq (h : r.WellFormed) (text : String) :
    (r.writeFreetext text = [] ∧ r.searchCondition? text = none) ∨
      ∃ s n, r.writeFreetext text = [s] ∧ r.searchCondition? text = some n ∧
        WritesCondition 1 s n := by
  have hmem : ∀ f ∈ r.freetextFilters, f ∈ r.filters := fun f hf => (List.mem_filter.1 hf).1
  unfold writeFreetext searchCondition?
  generalize r.freetextFilters = fs at hmem
  cases fs with
  | nil => exact .inl ⟨rfl, rfl⟩
  | cons f fs =>
    have heach : ∀ g ∈ f :: fs, WritesCondition 0 (g.writeComparison .contains (Text.quote text))
        (g.comparison .contains (.quoted text)) :=
      fun g hg => h.writesCondition_literal (hmem g hg) 0 _ (v := .quoted text) trivial
    exact .inr ⟨_, _, rfl, rfl,
      (writesExpression_intersperse .or " or " "or".toList (by decide) rfl heach).group⟩

end Registry.WellFormed

namespace BoundValues

/-! ## All bound values -/

/-- The clauses, each as text and as the condition that is meant. -/
def conditions (b : BoundValues) (r : Registry) : List (String × Node) :=
  ((b.onFilters r).map fun p => (p.1.write p.2, p.1.condition p.2)) ++
    match b.freetext? with
    | none => []
    | some text => (r.writeFreetext text).zip (r.searchCondition? text).toList

/-- The conditions of the filters are those of the values bound to them. -/
theorem filterMap_condition? (b : BoundValues) (r : Registry) :
    r.filters.filterMap (·.condition? b) = (b.onFilters r).map fun p => p.1.condition p.2 := by
  unfold onFilters
  rw [List.map_filterMap]
  congr 1
  funext f
  unfold Filter.condition?
  cases b.get? f.name with
  | none => rfl
  | some v => cases hblank : v.isBlank <;> simp [Option.filter, hblank]

/-- What is written is the texts of the clauses, and what is meant their conditions. -/
theorem write_and_query_eq {r : Registry} (hr : r.WellFormed) (b : BoundValues) :
    b.write r = " and ".intercalate ((b.conditions r).map Prod.fst) ∧
      b.query r = ⟨((b.conditions r).map Prod.snd).intersperse (.connective .and)⟩ := by
  unfold write query conditions
  rw [filterMap_condition?]
  cases b.freetext? with
  | none => simp [Function.comp_def]
  | some text =>
    obtain ⟨htext, hnode⟩ | ⟨s, n, htext, hnode, -⟩ := hr.writeFreetext_eq text
    · simp [Function.comp_def, htext, hnode]
    · simp [Function.comp_def, htext, hnode]

/-- Each clause is written for its condition. -/
theorem writesCondition_of_mem_conditions {b : BoundValues} {r : Registry} (hr : r.WellFormed)
    (hvalues : ∀ p ∈ b.onFilters r, ∀ x ∈ p.2.values, x.Typable) :
    ∀ c ∈ b.conditions r, WritesCondition 1 c.1 c.2 := by
  intro c hc
  obtain hc | hc := List.mem_append.1 hc
  · obtain ⟨p, hp, rfl⟩ := List.mem_map.1 hc
    obtain ⟨hf, hblank⟩ := mem_onFilters hp
    exact hr.writesCondition_write hf hblank (hvalues p hp)
  · cases hfreetext : b.freetext? with
    | none =>
      rw [hfreetext] at hc
      exact absurd hc List.not_mem_nil
    | some text =>
      rw [hfreetext] at hc
      obtain ⟨htext, hnode⟩ | ⟨s, n, htext, hnode, hwrites⟩ := hr.writeFreetext_eq text
      · simp [htext] at hc
      · simp only [htext, hnode, Option.toList_some, List.zip_cons_cons, List.zip_nil_right,
          List.mem_singleton] at hc
        rw [hc]
        exact hwrites

/-- **A bound value cannot change the structure of what is written.** Whatever text, number or date
is bound to whatever filters have been registered, the text that is written is read as the query
that is meant: with one condition for each value, and one literal for the value in it. -/
theorem parseWithin_write {r : Registry} (hr : r.Reachable) (b : BoundValues) {limits : Limits}
    (hvalues : ∀ p ∈ b.onFilters r, ∀ x ∈ p.2.values, x.Typable) (hdepth : 1 ≤ limits.maxDepth)
    (hlength : byteLength (b.write r).toList ≤ limits.maxLength) :
    Query.parseWithin limits (b.write r) = .ok (b.query r) := by
  obtain ⟨hwrite, hquery⟩ := write_and_query_eq hr.wellFormed b
  have hwrites := writesCondition_of_mem_conditions hr.wellFormed hvalues
  rw [hwrite] at hlength
  rw [hwrite, hquery]
  cases hconditions : b.conditions r with
  | nil =>
    -- Without clauses the text is empty, and so is the query.
    exact parseWithin_of_wellFormed (q := ⟨[]⟩) (.inl rfl) (Nat.zero_le _) (Nat.zero_le _)
  | cons c cs =>
    rw [hconditions] at hwrites hlength
    exact (writesExpression_intersperse .and " and " "and".toList (by decide) rfl
      hwrites).parseWithin hdepth hlength

/-- A title that tries to end its quotes, its comparison and a group, a rating that is no number,
two prices of which one is in Arabic digits, a record without a name, and a search for `null`. -/
theorem parseWithin_write_hostile :
    let r : Registry := ⟨[{ Filter.text "Title" with freetext := true }, Filter.float "rating",
      Filter.decimal "price", Filter.reference "artist" fun _ => []]⟩
    let b := (((({} : BoundValues).set "artist" (.record 7 none)).set "price"
      (.list [.decimal "+1e3", .decimal "\u0663.5"])).set "rating" (.single (.float (0 / 0)))).set
      "Title" (.single (.text "\\\") or x=1) and (\"")) |>.search "null"
    b.write r = "title=\"\\\\\\\") or x=1) and (\\\"\" and rating=NaN" ++
        " and (price=+1e3 OR price=\u0663.5) and artist.pk=7 and (title:\"null\")" ∧
      Query.parseWithin ⟨1, 120⟩ (b.write r) = .ok ⟨[
        .statement (.comparison "title" .eq (.quoted "\\\") or x=1) and (\"")), .connective .and,
        .statement (.comparison "rating" .eq (.bare "NaN")), .connective .and,
        .group [.statement (.comparison "price" .eq (.bare "+1e3")), .connective .or,
          .statement (.comparison "price" .eq (.bare "\u0663.5"))], .connective .and,
        .statement (.comparison "artist.pk" .eq (.bare "7")), .connective .and,
        .group [.statement (.comparison "title" .contains (.quoted "null"))]]⟩ := by
  have hr : Registry.Reachable ⟨[{ Filter.text "Title" with freetext := true },
      Filter.float "rating", Filter.decimal "price", Filter.reference "artist" fun _ => []]⟩ := by
    refine .register (.register (.register (.register .empty
      (Registry.register_eq_ok_iff.2 ⟨?_, rfl⟩)) (Registry.register_eq_ok_iff.2 ⟨?_, rfl⟩))
      (Registry.register_eq_ok_iff.2 ⟨?_, rfl⟩)) (Registry.register_eq_ok_iff.2 ⟨?_, rfl⟩)
    all_goals decide
  intro r b
  have hwrite : b.write r = "title=\"\\\\\\\") or x=1) and (\\\"\" and rating=NaN" ++
      " and (price=+1e3 OR price=\u0663.5) and artist.pk=7 and (title:\"null\")" := by
    decide +kernel
  have hvalues : ∀ p ∈ b.onFilters r, ∀ x ∈ p.2.values, x.Typable := by
    have hfilters : (b.onFilters r).map Prod.snd = [.single (.text "\\\") or x=1) and (\""),
        .single (.float (0 / 0)), .list [.decimal "+1e3", .decimal "\u0663.5"],
        .record 7 none] := rfl
    intro p hp x hx
    have hmem := List.mem_map_of_mem (f := Prod.snd) hp
    rw [hfilters] at hmem
    simp only [List.mem_cons, List.not_mem_nil, or_false] at hmem
    rcases hmem with h | h | h | h <;> rw [h] at hx
    · obtain rfl := List.mem_singleton.1 hx
      trivial
    · obtain rfl := List.mem_singleton.1 hx
      trivial
    · simp only [BoundValue.values, List.mem_cons, List.not_mem_nil, or_false] at hx
      rcases hx with rfl | rfl
      · exact ⟨"+1e3", rfl⟩
      · exact ⟨"\u0663.5", rfl⟩
    · exact absurd hx List.not_mem_nil
  have hlength : byteLength (b.write r).toList ≤ 120 := by
    rw [hwrite]
    decide +kernel
  have hquery : Query.parseWithin ⟨1, 120⟩ (b.write r) = .ok (b.query r) :=
    parseWithin_write hr b hvalues (Nat.le_refl 1) hlength
  exact ⟨hwrite, hquery⟩

end BoundValues

end FilterQuery
