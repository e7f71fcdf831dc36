/-
Bound values as text mean what they mean as they are.

Bound values stand for a predicate in two ways: by the filters themselves, and by the text of a
query that is compiled. The two agree clause by clause. The literal of a value reads back as that
literal and as nothing else: text is quoted, so that it is never taken for the name of a filter or
for `null`, and a number begins as no name does. What is left to the filters is to read the text of
a value as that value, and that is all that is asked of them (`Filter.ReadsBack`).
-/
import FilterQuery.Bound
import FilterQuery.Filter.Kinds
import FilterQuery.Proofs.Compile
import FilterQuery.Proofs.Registry

set_option autoImplicit false

namespace FilterQuery

/-! ## What is asked of values and filters -/

/-- The literal that a value is written as. -/
def Value.asLiteral : Value → Literal
  | text s => .quoted s
  | int n => .bare (Number.showInt64 n)
  | float x => .bare (Number.showDouble x)
  | decimal s => .bare s
  | bool b => .bare (if b then "1" else "0")
  | date d => .quoted d.literal
  | dateTime dt => .quoted dt.literal
  | time t => .quoted t.clock

/-- A value is written by writing its literal. -/
theorem Value.render_asLiteral (v : Value) : v.asLiteral.render = v.literal := by
  cases v <;> rfl

/-- A value that has a literal: a decimal has been read as one, and a double is finite. -/
def Value.Writable : Value → Prop
  | decimal s => ∃ typed, Value.readDecimal typed = .ok (.decimal s)
  | float x => (Number.DoubleKind.ofBits x.toBits.toNat).IsFinite
  | _ => True

/-- The values that are bound, where a record with a name is bound by that. -/
def BoundValue.values : BoundValue → List Value
  | single v => [v]
  | list vs => vs
  | record _ (some name) => [.text name]
  | record _ none => []

/-- Does the filter accept its own operator, and read the text of every value bound to it as that
value? A record without a name is not read by the filter. -/
def Filter.ReadsBack (f : Filter) : BoundValue → Prop
  | .record _ none => True
  | v => f.operators.accepts f.formOperator = true ∧
      ∀ x ∈ v.values, f.read x.asLiteral.text = .ok x

/-- Are there filters that are searched for the text, and do all of them keep it and compare as
usual? -/
def Registry.SearchesFor (r : Registry) (text : String) : Prop :=
  r.freetextFilters ≠ [] ∧
    ∀ f ∈ r.freetextFilters, f.read text = .ok (.text text) ∧ f.rule = .compare

/-! ## Literals -/

/-- A literal that only ever means a value. -/
inductive Literal.IsPlain : Literal → Prop
  | quoted (text : String) : IsPlain (.quoted text)
  | number {text : String} (h : Number.IsNumberText text.toList) : IsPlain (.bare text)

theorem Literal.IsPlain.wellFormed {v : Literal} (h : v.IsPlain) : v.WellFormed := by
  cases h with
  | quoted text => trivial
  | number h => exact h.wellFormed

/-- Every value is written as such a literal. -/
theorem Value.Writable.isPlain {v : Value} (h : v.Writable) : v.asLiteral.IsPlain := by
  cases v with
  | text s => exact .quoted s
  | int n => exact .number (Number.isNumberText_showInt64 n)
  | float x => exact .number (Number.isNumberText_showDouble h)
  | decimal s =>
    obtain ⟨typed, htyped⟩ := h
    unfold Value.readDecimal at htyped
    split at htyped
    · rename_i hdecimal
      obtain rfl : Text.trim typed = s := by simpa using htyped
      refine .number ?_
      rw [Text.trim, String.toList_ofList]
      exact Number.isNumberText_of_isDecimal hdecimal
    · simp at htyped
  | bool b =>
    refine .number ?_
    cases b <;> exact .cons (by decide) (by simp)
  | date d => exact .quoted _
  | dateTime dt => exact .quoted _
  | time t => exact .quoted _

/-! ## Filters -/

/-- An operator that is accepted has a meaning. -/
theorem Filter.Traits.exists_resolve {t : Filter.Traits} {op : Operator}
    (hop : t.operators.accepts op = true) : ∃ meaning, t.resolve op = .ok meaning := by
  obtain ⟨meaning, hfind⟩ := Option.isSome_iff_exists.1 hop
  exact ⟨meaning, by rw [Filter.Traits.resolve, hfind]⟩

/-- The text of a value stands in for it in an error only. -/
theorem Filter.toOption_demand (f : Filter) (op : Operator) (operand : Operand)
    (text text' : String) :
    (f.demand op operand text).toOption = (f.demand op operand text').toOption := by
  unfold Filter.demand
  cases f.predicate? op operand with
  | error e => rfl
  | ok p => cases p <;> rfl

/-- A disjunction leaves out what asks for nothing. -/
theorem Predicate.any_filterMap_id (parts : List (Option Predicate)) :
    Predicate.any (parts.filterMap id) = .any (parts.map fun part => part.getD .empty) := by
  have hfold : ∀ p : Predicate, (parts.filterMap id).foldl .or p
      = (parts.map fun part => part.getD .empty).foldl .or p := by
    induction parts with
    | nil => exact fun _ => rfl
    | cons part parts ih =>
      intro p
      cases part with
      | none => simpa using ih p
      | some q => simpa using ih (p.or q)
  exact hfold .empty

namespace Registry

variable {r : Registry} {f : Filter}

/-! ## Comparisons -/

/-- The name of a filter is resolved to that filter, whatever it is compared with. -/
theorem WellFormed.compileComparison (h : r.WellFormed) (hf : f ∈ r.filters) (op : Operator)
    (v : Literal) : r.compileComparison f.queryName op v = r.compileLiteral f op v := by
  unfold Registry.compileComparison
  rw [h.dropKeySuffix?_queryName hf]
  simp only [h.resolve_queryName hf]
  rfl

/-- A comparison with a value comes to what the filter makes of the value, if the filter reads the
value and accepts the operator. -/
theorem WellFormed.compileLiteral (h : r.WellFormed) {op : Operator} {v : Literal}
    (hv : v.IsPlain) {x : Value} (hread : f.read v.text = .ok x)
    (hop : f.operators.accepts op = true) :
    r.compileLiteral f op v = f.demand op (.value x) v.text := by
  have hvalue : f.compileValue op v.text = f.demand op (.value x) v.text := by
    obtain ⟨meaning, hmeaning⟩ := Filter.Traits.exists_resolve hop
    rw [Filter.compileValue, hread]
    simp only [hmeaning, Except.bind]
  -- The value is not taken for the name of a filter.
  have hfield : r.fieldReference? v = none := by
    cases hv with
    | quoted text => rfl
    | number hnumber => rw [fieldReference?, h.get?_number hnumber, Option.bind_none]
  unfold Registry.compileLiteral
  rw [hfield]
  cases hv <;> exact hvalue

/-! ## Clauses -/

/-- A comparison of a filter with a value stands for the predicate of the value. -/
theorem WellFormed.standsFor_value (h : r.WellFormed) (hf : f ∈ r.filters) (op : Operator)
    {x : Value} (hx : x.Writable) (hread : f.read x.asLiteral.text = .ok x)
    (hop : f.operators.accepts op = true) (depth : Nat) (text : String) :
    ∃ n, r.StandsFor depth (f.writeComparison op x.literal)
      (f.demand op (.value x) text).toOption n := by
  have hcomparison := standsFor_comparison r depth (h.isName f hf) op hx.isPlain.wellFormed
  rw [h.compileComparison hf, h.compileLiteral hx.isPlain hread hop, x.render_asLiteral,
    f.toOption_demand op _ _ text] at hcomparison
  exact ⟨_, hcomparison⟩

/-- The key of a record is compared by its number, with the filter that the name in front of the
suffix leads to. -/
theorem compileComparison_key {name : String} (hname : r.resolve name = .ok f) (key : Int64) :
    r.compileComparison (name ++ ".pk") .eq (.bare (Number.showInt64 key))
      = .ok (f.compareKey key) := by
  have hnumber := (Number.isNumberText_showInt64 key).wellFormed
  have htrim := (isTrimmed_of_isBareChar hnumber.1 hnumber.2.1).trimChars
  unfold Registry.compileComparison
  rw [dropKeySuffix?_append]
  simp only [hname, Except.bind, Filter.compileKey, ne_eq, not_true_eq_false, if_false,
    Literal.text, htrim, Number.readInt64?_showInt64]

/-- **The text of what is bound to a filter stands for the predicate** that the filter makes of it.
-/
theorem WellFormed.standsFor_write (h : r.WellFormed) (hf : f ∈ r.filters) {v : BoundValue}
    (hblank : v.isBlank = false) (hread : f.ReadsBack v) (hv : ∀ x ∈ v.values, x.Writable) :
    ∃ n, r.StandsFor 1 (f.write v) (f.bindAll v).toOption n := by
  cases v with
  | single x =>
    obtain ⟨hop, hread⟩ := hread
    exact h.standsFor_value hf _ (hv x List.mem_cons_self) (hread x List.mem_cons_self) hop _ _
  | list vs =>
    obtain ⟨hop, hread⟩ := hread
    cases vs with
    | nil => simp [BoundValue.isBlank] at hblank
    | cons x xs =>
      have heach : ∀ y ∈ x :: xs, ∃ n, r.StandsFor 0 (f.writeComparison f.formOperator y.literal)
          (f.bind y).toOption n := fun y hy =>
        h.standsFor_value hf _ (hv y hy) (hread y hy) hop _ _
      -- Any of the values: a group with a comparison for each.
      obtain ⟨ns, hns⟩ := standForEach_of_forall .or " OR " "OR".toList (by decide) rfl
        heach
      refine ⟨.group ns, ?_⟩
      rw [Filter.bindAll, toOption_map, toOption_mapM]
      exact hns.group
  | record key name =>
    cases name with
    | some name =>
      -- A record with a name is bound as that text.
      obtain ⟨hop, hread⟩ := hread
      exact h.standsFor_value hf _ (x := .text name) trivial
        (hread _ List.mem_cons_self) hop _ _
    | none =>
      have hcomparison := standsFor_comparison r 1 (isName_append_key (h.isName f hf)) .eq
        (Number.isNumberText_showInt64 key).wellFormed
      rw [compileComparison_key (h.resolve_queryName hf)] at hcomparison
      have htext : f.write (.record key none)
          = f.queryName ++ ".pk" ++ Operator.eq.symbol
            ++ (Literal.bare (Number.showInt64 key)).render := by
        simp [Filter.write, Operator.symbol, Literal.render, String.append_assoc]
      rw [htext]
      exact ⟨_, hcomparison⟩

end Registry

/-! ## The search for text -/

namespace Filter

variable {f : Filter}

/-- What the filter asks for if it is to contain the value; nothing without an attribute. -/
def searchFor (f : Filter) (v : Value) : Predicate :=
  match f.attr, f.operators.find? .contains with
  | some attr, some meaning => meaning.predicate attr (.value v)
  | _, _ => .empty

theorem searchFor_of_attr_eq_none (hattr : f.attr = none) (v : Value) : f.searchFor v = .empty := by
  unfold searchFor
  rw [hattr]

/-- This is what a filter that compares as usual makes of the value. -/
theorem predicate?_contains (hrule : f.rule = .compare)
    (hop : f.operators.accepts .contains = true) (v : Value) :
    f.predicate? .contains (.value v) = .ok (some (f.searchFor v)) := by
  obtain ⟨meaning, hmeaning⟩ := Option.isSome_iff_exists.1 hop
  rw [predicate?, hrule, PredicateRule.compare, searchFor, Traits.resolve, hmeaning]
  cases f.attr <;> rfl

/-- And it is the part of the filter in a search for the text. -/
theorem freetextPart_eq_ok (hop : f.operators.accepts .contains = true) (text : String) :
    Registry.freetextPart text f = .ok (f.attr.map fun _ => f.searchFor (.text text)) := by
  obtain ⟨meaning, hmeaning⟩ := Option.isSome_iff_exists.1 hop
  unfold Registry.freetextPart searchFor Traits.resolve
  rw [hmeaning]
  cases f.attr <;> rfl

end Filter

namespace Registry

variable {r : Registry} {f : Filter}

/-- A filter that compares as usual asks of a text that it contains what its part in a search for
the text asks. -/
theorem toOption_freetextPart (hrule : f.rule = .compare)
    (hop : f.operators.accepts .contains = true) (text : String) :
    (freetextPart text f).toOption.map (fun part => part.getD .empty)
      = (f.demand .contains (.value (.text text)) text).toOption := by
  unfold Filter.demand
  rw [f.freetextPart_eq_ok hop, f.predicate?_contains hrule hop]
  cases hattr : f.attr with
  | none => rw [f.searchFor_of_attr_eq_none hattr]; rfl
  | some attr => rfl

/-- **The text of a search stands for the predicate of the search.** -/
theorem WellFormed.standsFor_writeFreetext (h : r.WellFormed) {text : String}
    (hsearch : r.SearchesFor text) :
    ∃ s n, r.writeFreetext text = [s] ∧
      r.StandsFor 1 s (r.compileFreetext text).toOption n := by
  obtain ⟨hne, hfilters⟩ := hsearch
  have hmem : ∀ f ∈ r.freetextFilters, f ∈ r.filters ∧ f.operators.accepts .contains = true := by
    intro f hf
    obtain ⟨hf, hfreetext⟩ := List.mem_filter.1 hf
    exact ⟨hf, h.searched f hf hfreetext⟩
  unfold writeFreetext compileFreetext
  generalize r.freetextFilters = fs at hne hfilters hmem
  cases fs with
  | nil => exact absurd rfl hne
  | cons f fs =>
    have heach : ∀ g ∈ f :: fs, ∃ n, r.StandsFor 0 (g.writeComparison .contains (Text.quote text))
        ((freetextPart text g).toOption.map fun part => part.getD .empty) n := by
      intro g hg
      rw [toOption_freetextPart (hfilters g hg).2 (hmem g hg).2]
      exact h.standsFor_value (hmem g hg).1 _ (x := .text text) trivial (hfilters g hg).1
        (hmem g hg).2 _ _
    obtain ⟨ns, hns⟩ := standForEach_of_forall .or " or " "or".toList (by decide) rfl heach
    refine ⟨_, .group ns, rfl, ?_⟩
    have hgroup := hns.group
    rw [mapM_option_map, ← toOption_mapM, Option.map_map] at hgroup
    simp only [List.isEmpty_cons, Bool.false_eq_true, if_false, toOption_map,
      Predicate.any_filterMap_id]
    exact hgroup

end Registry

namespace BoundValues

/-! ## All bound values -/

theorem mem_onFilters {b : BoundValues} {r : Registry} {p : Filter × BoundValue}
    (hp : p ∈ b.onFilters r) : p.1 ∈ r.filters ∧ p.2.isBlank = false := by
  obtain ⟨f, hf, hmap⟩ := List.mem_filterMap.1 hp
  obtain ⟨v, hv, rfl⟩ := Option.map_eq_some_iff.1 hmap
  exact ⟨hf, by simpa using (Option.filter_eq_some_iff.1 hv).2⟩

/-- The clauses of the bound values, each as text and with the predicate that it stands for: those
of the filters in order, and the search for text last. -/
def clauses (b : BoundValues) (r : Registry) : List (String × Option Predicate) :=
  ((b.onFilters r).map fun p => (p.1.write p.2, (p.1.bindAll p.2).toOption)) ++
    match b.freetext? with
    | none => []
    | some text => (r.writeFreetext text).map fun s => (s, (r.compileFreetext text).toOption)

/-- The clauses are what is written. -/
theorem write_eq_clauses (b : BoundValues) (r : Registry) :
    b.write r = " and ".intercalate ((b.clauses r).map Prod.fst) := by
  unfold write clauses
  cases b.freetext? <;> simp [Function.comp_def]

/-- The predicates of the clauses are what is asked for. -/
theorem toOption_predicate {b : BoundValues} {r : Registry} (hr : r.WellFormed)
    (hsearch : ∀ text ∈ b.freetext?, r.SearchesFor text) :
    (b.predicate r).toOption = ((b.clauses r).mapM Prod.snd).map .all := by
  have hfilters : ((b.onFilters r).map fun p => (p.1.write p.2, (p.1.bindAll p.2).toOption)).mapM
        Prod.snd
      = ((b.onFilters r).mapM fun p : Filter × BoundValue => p.1.bindAll p.2).toOption := by
    rw [toOption_mapM, List.mapM_map]
    rfl
  unfold predicate clauses
  rw [List.mapM_append, hfilters]
  cases hfreetext : b.freetext? with
  | none =>
    rw [List.mapM_nil]
    cases (b.onFilters r).mapM fun p : Filter × BoundValue => p.1.bindAll p.2 with
    | error e => rfl
    | ok parts => exact congrArg (some <| Predicate.all ·) (List.append_nil parts).symm
  | some text =>
    obtain ⟨s, -, hs, -⟩ := hr.standsFor_writeFreetext (hsearch text hfreetext)
    simp only [hs]
    cases (b.onFilters r).mapM fun p : Filter × BoundValue => p.1.bindAll p.2 with
    | error e => rfl
    | ok parts => cases r.compileFreetext text <;> rfl

/-- Each clause stands for its predicate. -/
theorem standsFor_of_mem_clauses {b : BoundValues} {r : Registry} (hr : r.WellFormed)
    (hread : ∀ p ∈ b.onFilters r, p.1.ReadsBack p.2)
    (hwritable : ∀ p ∈ b.onFilters r, ∀ x ∈ p.2.values, x.Writable)
    (hsearch : ∀ text ∈ b.freetext?, r.SearchesFor text) :
    ∀ c ∈ b.clauses r, ∃ n, r.StandsFor 1 c.1 c.2 n := by
  intro c hc
  obtain hc | hc := List.mem_append.1 hc
  · obtain ⟨p, hp, rfl⟩ := List.mem_map.1 hc
    obtain ⟨hf, hblank⟩ := mem_onFilters hp
    exact hr.standsFor_write hf hblank (hread p hp) (hwritable p hp)
  · cases hfreetext : b.freetext? with
    | none =>
      rw [hfreetext] at hc
      exact absurd hc List.not_mem_nil
    | some text =>
      obtain ⟨s, n, hs, hstands⟩ := hr.standsFor_writeFreetext (hsearch text hfreetext)
      rw [hfreetext] at hc
      simp only [hs] at hc
      obtain rfl := List.mem_singleton.1 hc
      exact ⟨n, hstands⟩

/-- **Bound values as text compile to the predicate that they stand for**, and to none if they stand
for none: whatever the filters are that have been registered, if they read back the values that are
bound to them and the limits leave room for the text. -/
theorem compileWithin_write {r : Registry} (hr : r.Reachable) (b : BoundValues) {limits : Limits}
    (hread : ∀ p ∈ b.onFilters r, p.1.ReadsBack p.2)
    (hwritable : ∀ p ∈ b.onFilters r, ∀ x ∈ p.2.values, x.Writable)
    (hsearch : ∀ text ∈ b.freetext?, r.SearchesFor text) (hdepth : 1 ≤ limits.maxDepth)
    (hlength : byteLength (b.write r).toList ≤ limits.maxLength) (p : Predicate) :
    r.compileWithin limits (b.write r) = .ok p ↔ b.predicate r = .ok p := by
  have hstands := standsFor_of_mem_clauses hr.wellFormed hread hwritable hsearch
  refine eq_ok_iff_of_toOption ?_ p
  rw [toOption_predicate hr.wellFormed hsearch]
  rw [write_eq_clauses] at hlength ⊢
  cases hclauses : b.clauses r with
  | nil =>
    -- Without clauses the text is empty, and neither asks for anything.
    rfl
  | cons c cs =>
    rw [hclauses] at hstands hlength
    obtain ⟨ns, hns⟩ := Registry.standForEach_of_forall .and " and " "and".toList (by decide)
      rfl hstands
    exact hns.compileWithin hdepth hlength

/-- A title with quotes, two years, and a search for text. -/
theorem compileWithin_write_title :
    let title := { Filter.text "Title" with freetext := true }
    let r : Registry := ⟨[title, Filter.integer "year"]⟩
    let b := ((({} : BoundValues).set "year" (.list [.int 1983, .int (-4)])).set "Title"
      (.single (.text "Holy \"Diver\""))).search "or"
    b.write r = "title=\"Holy \\\"Diver\\\"\" and (year=1983 OR year=-4) and (title:\"or\")" ∧
      r.compileWithin ⟨1, 100⟩ (b.write r) = .ok (.conj [
        .compare "Title" .iexact (.value (.text "Holy \"Diver\"")),
        .disj [.compare "year" .exact (.value (.int 1983)),
          .compare "year" .exact (.value (.int (-4)))],
        .compare "Title" .icontains (.value (.text "or"))]) := by
  have hr : Registry.Reachable
      ⟨[{ Filter.text "Title" with freetext := true }, Filter.integer "year"]⟩ := by
    refine .register (.register .empty (Registry.register_eq_ok_iff.2 ⟨?_, rfl⟩))
      (Registry.register_eq_ok_iff.2 ⟨?_, rfl⟩)
    · decide
    · decide
  intro title r b
  have hfilters : b.onFilters r = [(title, .single (.text "Holy \"Diver\"")),
      (Filter.integer "year", .list [.int 1983, .int (-4)])] := rfl
  have hwrite : b.write r =
      "title=\"Holy \\\"Diver\\\"\" and (year=1983 OR year=-4) and (title:\"or\")" := by
    rfl
  have hread : ∀ p ∈ b.onFilters r, p.1.ReadsBack p.2 := by
    rw [hfilters, List.forall_mem_cons, List.forall_mem_singleton]
    exact ⟨⟨rfl, List.forall_mem_singleton.2 rfl⟩,
      ⟨rfl, List.forall_mem_cons.2 ⟨rfl, List.forall_mem_singleton.2 rfl⟩⟩⟩
  have hwritable : ∀ p ∈ b.onFilters r, ∀ x ∈ p.2.values, x.Writable := by
    rw [hfilters, List.forall_mem_cons, List.forall_mem_singleton]
    exact ⟨List.forall_mem_singleton.2 trivial,
      List.forall_mem_cons.2 ⟨trivial, List.forall_mem_singleton.2 trivial⟩⟩
  have hsearch : ∀ text ∈ b.freetext?, r.SearchesFor text := by
    rintro text ⟨⟩
    exact ⟨List.cons_ne_nil _ _, List.forall_mem_singleton.2 ⟨rfl, rfl⟩⟩
  have hlength : byteLength (b.write r).toList ≤ 100 := by
    rw [hwrite]
    decide
  have hpredicate : b.predicate r = .ok (.conj [
      .compare "Title" .iexact (.value (.text "Holy \"Diver\"")),
      .disj [.compare "year" .exact (.value (.int 1983)),
        .compare "year" .exact (.value (.int (-4)))],
      .compare "Title" .icontains (.value (.text "or"))]) := rfl
  exact ⟨hwrite,
    (compileWithin_write hr b hread hwritable hsearch (by decide) hlength _).2 hpredicate⟩

end BoundValues

end FilterQuery
