/-
Where the predicates of statements come from.

A statement goes one of several ways to its predicate, and on each of them something else is checked.
What comes out in the end is one of a few things, though: what the rule of a filter makes of a value
or of the attribute of another filter; a key that is compared; the question whether there is a value;
a search for text; or nothing, where the filter has no attribute. All of these are listed here
(`Registry.Makes`), with what is known of the filters by then, and
`Registry.makes_of_compileStatement` says that there are no others. Whatever is to be shown of all
predicates of statements is then shown of each of these.
-/
import FilterQuery.Proofs.Compile.Outcome

set_option autoImplicit false

namespace FilterQuery

namespace Registry

/-- `r.Makes p`: a statement can have the predicate among the filters of the registry. -/
inductive Makes (r : Registry) : Predicate → Prop
  /-- The rule of a filter makes it of a value. -/
  | value {f : Filter} {op : Operator} {v : Value} {p : Predicate} (hf : f ∈ r.filters)
      (h : f.predicate? op (.value v) = .ok (some p)) : Makes r p
  /-- The rule of a filter makes it of the attribute of a filter. -/
  | field {f g : Filter} {op : Operator} {path : String} {p : Predicate} (hf : f ∈ r.filters)
      (hg : g ∈ r.filters) (hpath : g.attr = some path)
      (h : f.predicate? op (.field path) = .ok (some p)) : Makes r p
  /-- The key of the record that a filter refers to is compared. -/
  | key {f : Filter} {attr : String} (hf : f ∈ r.filters) (hattr : f.attr = some attr)
      (k : Int64) : Makes r (.compare (attr ++ ".pk") .exact (.value (.int k)))
  /-- It is asked that there is no value, or that there is one. -/
  | noValue {f : Filter} {attr : String} (hf : f ∈ r.filters) (hattr : f.attr = some attr)
      (negated : Bool) : Makes r ((Predicate.isNull attr).negateIf negated)
  /-- Text is searched for in any of some filters. -/
  | search {parts : List Predicate} (h : ∀ p ∈ parts, ∃ f ∈ r.filters, ∃ attr meaning v,
      f.attr = some attr ∧ f.resolve .contains = .ok meaning ∧ p = meaning.predicate attr (.value v)) :
      Makes r (.any parts)
  /-- Nothing is asked for. -/
  | nothing : Makes r .empty

end Registry

/-! ## Comparisons with one filter -/

namespace Filter

variable {f : Filter} {op : Operator} {p : Predicate}

/-- What is demanded of a filter has been made by its rule. -/
theorem predicate?_of_demand {operand : Operand} {text : String}
    (h : f.demand op operand text = .ok p) : f.predicate? op operand = .ok (some p) := by
  obtain ⟨found, hfound, hp⟩ := exists_of_bind_eq_ok h
  cases found with
  | none => simp at hp
  | some q => rw [hfound, Except.ok.inj hp]

theorem predicate?_of_compileField {path text : String}
    (h : f.compileField op path text = .ok p) : f.predicate? op (.field path) = .ok (some p) := by
  obtain ⟨-, -, hp⟩ := exists_of_bind_eq_ok h
  exact predicate?_of_demand hp

theorem exists_predicate?_of_compileValue {text : String} (h : f.compileValue op text = .ok p) :
    ∃ v, f.predicate? op (.value v) = .ok (some p) := by
  unfold compileValue at h
  split at h
  · simp at h
  · rename_i v _
    obtain ⟨-, -, hp⟩ := exists_of_bind_eq_ok h
    exact ⟨v, predicate?_of_demand hp⟩

end Filter

namespace Registry

variable {r : Registry} {p : Predicate}

theorem makes_of_compileKey {f : Filter} (hf : f ∈ r.filters) {op : Operator} {value : Literal}
    (h : f.compileKey op value = .ok p) : r.Makes p := by
  unfold Filter.compileKey at h
  split at h
  · simp at h
  · split at h
    · rename_i key _
      obtain rfl := Except.ok.inj h
      unfold Filter.compareKey
      split
      · rename_i attr hattr
        exact .key hf hattr key
      · exact .nothing
    · simp at h

theorem makes_of_compileNull {f : Filter} (hf : f ∈ r.filters) {op : Operator}
    (h : f.compileNull op = .ok p) : r.Makes p := by
  unfold Filter.compileNull at h
  dsimp only at h
  cases hattr : f.attr with
  | none =>
    rw [hattr] at h
    split at h
    · exact Except.ok.inj h ▸ .nothing
    · exact Except.ok.inj h ▸ .nothing
    · simp at h
  | some attr =>
    rw [hattr] at h
    split at h
    · exact Except.ok.inj h ▸ .noValue hf hattr false
    · exact Except.ok.inj h ▸ .noValue hf hattr true
    · simp at h

/-! ## Statements -/

/-- A value stands only for the attribute of one of the filters. -/
theorem exists_of_fieldReference? {value : Literal} {path : String}
    (h : r.fieldReference? value = some path) : ∃ g ∈ r.filters, g.attr = some path := by
  unfold fieldReference? at h
  split at h
  · obtain ⟨g, hg, hattr⟩ := Option.bind_eq_some_iff.1 h
    exact ⟨g, mem_of_get? hg, hattr⟩
  · simp at h

theorem makes_of_compileLiteral {f : Filter} (hf : f ∈ r.filters) {op : Operator}
    {value : Literal} (h : r.compileLiteral f op value = .ok p) : r.Makes p := by
  unfold compileLiteral at h
  split at h
  · rename_i path hpath
    obtain ⟨g, hg, hattr⟩ := exists_of_fieldReference? hpath
    exact .field hf hg hattr (Filter.predicate?_of_compileField h)
  · split at h
    · exact makes_of_compileNull hf h
    · obtain ⟨v, hv⟩ := Filter.exists_predicate?_of_compileValue h
      exact .value hf hv

theorem makes_of_compileComparison {name : String} {op : Operator} {value : Literal}
    (h : r.compileComparison name op value = .ok p) : r.Makes p := by
  unfold compileComparison at h
  split at h
  · obtain ⟨f, hf, hp⟩ := exists_of_bind_eq_ok h
    exact makes_of_compileKey (mem_of_resolve hf) hp
  · obtain ⟨f, hf, hp⟩ := exists_of_bind_eq_ok h
    exact makes_of_compileLiteral (mem_of_resolve hf) hp

theorem makes_of_compileFlag {name : String} {negated : Bool}
    (h : r.compileFlag name negated = .ok p) : r.Makes p := by
  obtain ⟨f, hf, hp⟩ := exists_of_bind_eq_ok h
  split at hp
  · exact .value (mem_of_resolve hf) (Filter.predicate?_of_demand hp)
  · simp at hp

theorem makes_of_compileFreetext {text : String} (h : r.compileFreetext text = .ok p) :
    r.Makes p := by
  unfold compileFreetext at h
  split at h
  · simp at h
  · obtain ⟨parts, hparts, rfl⟩ := exists_of_map_eq_ok h
    refine .search fun q hq => ?_
    -- Each part comes from one of the filters that are searched.
    have hmem : some q ∈ parts := by simpa using hq
    obtain ⟨f, hf, hpart⟩ := exists_of_mem_mapM hparts hmem
    unfold freetextPart at hpart
    split at hpart
    · simp at hpart
    · rename_i attr hattr
      obtain ⟨meaning, hmeaning, heq⟩ := exists_of_map_eq_ok hpart
      exact ⟨f, (List.mem_filter.1 hf).1, attr, meaning, .text text, hattr, hmeaning,
        (Option.some.inj heq).symm⟩

/-- **Every statement that has a predicate has one of those that are listed.** -/
theorem makes_of_compileStatement {s : Statement} (h : r.compileStatement s = .ok p) :
    r.Makes p := by
  cases s with
  | comparison name op value => exact makes_of_compileComparison h
  | flag name negated => exact makes_of_compileFlag h
  | freetext text => exact makes_of_compileFreetext h

end Registry

end FilterQuery
