/-
Whole runs of registration.

An application attempts one filter after the other; one that is refused leaves the registry as it
was. What is then true of the registry is what registration has checked of each filter against those
before it (`Consistent`), and a filter is refused if and only if it would break this. All answers of
the registry follow: a name leads to the one filter that has it or to none, and the case in which a
name is typed does not matter, since names in queries are in lower case and lower case leaves them
alone. A name that is typed may still have letters from beyond ASCII whose small letters are in
ASCII, so this is said of lower case as it is done and not of pairs of letters.

The registry with indexes goes through the same run and comes to the same answers.
-/
import FilterQuery.Filter.Kinds
import FilterQuery.Proofs.Bound
import FilterQuery.Proofs.Registry.Indexed

set_option autoImplicit false

namespace FilterQuery.Registry

/-! ## Attempts -/

/-- What there is after an attempt to register a filter: what registration comes to, or what there
was before if the filter is refused. -/
def attempt {α : Type} (register : α → Filter → Except RegistryError α) (x : α) (f : Filter) : α :=
  match register x f with
  | .ok y => y
  | .error _ => x

/-- The registry after attempts, one after the other. -/
def afterAttempts (fs : List Filter) : Registry :=
  fs.foldl (attempt register) empty

/-- The registry with indexes after attempts, one after the other. -/
def Indexed.afterAttempts (fs : List Filter) : Indexed :=
  fs.foldl (attempt Indexed.register) Indexed.empty

/-- The filters that are accepted, of those that are attempted from `r` on. -/
def acceptedFrom (r : Registry) : List Filter → List Filter
  | [] => []
  | f :: fs =>
    match r.register f with
    | .ok r' => f :: r'.acceptedFrom fs
    | .error _ => r.acceptedFrom fs

/-- **The filters of the registry are those that were accepted**, in that order. -/
theorem filters_foldl_attempt (r : Registry) (fs : List Filter) :
    (fs.foldl (attempt register) r).filters = r.filters ++ r.acceptedFrom fs := by
  induction fs generalizing r with
  | nil => exact (List.append_nil _).symm
  | cons f fs ih =>
    rw [List.foldl_cons, ih, acceptedFrom, attempt]
    cases hf : r.register f with
    | error e => rfl
    | ok r' =>
      obtain ⟨-, rfl⟩ := register_eq_ok_iff.1 hf
      simp

/-! ## What is true of the filters -/

/-- What is true of the filters of a registry, all that registration checks and that no two have the
same name. -/
structure Consistent (r : Registry) : Prop extends WellFormed r where
  lowered : ∀ f ∈ r.filters, Text.lowercase f.queryName = f.queryName
  distinctNames : r.filters.Pairwise fun f g => f.name ≠ g.name

theorem consistent_empty : empty.Consistent :=
  ⟨Reachable.empty.wellFormed, fun _ hf => absurd hf List.not_mem_nil, .nil⟩

/-- A name in queries is in lower case, and stays as it is if it is put in lower case again. -/
theorem lowercase_queryName {f : Filter} (h : FilterQuery.isName f.queryName = true) :
    Text.lowercase f.queryName = f.queryName := by
  rw [Text.lowercase_of_isName h, f.queryName_lowered.map_toLower, String.ofList_toList]

/-- **What registration checks of a filter is what keeps the registry consistent** with it. -/
theorem Consistent.append_iff {r : Registry} (h : r.Consistent) (f : Filter) :
    Consistent ⟨r.filters ++ [f]⟩ ↔ ∃ r', r.register f = .ok r' := by
  constructor
  · intro hall
    have hlast : f ∈ r.filters ++ [f] := List.mem_append_right _ (List.mem_singleton_self f)
    have hnames := hall.distinctNames
    have hqueries := hall.distinct
    rw [List.pairwise_append] at hnames hqueries
    refine ⟨_, register_eq_ok_iff.2 ⟨⟨hall.isName f hlast, hall.noKey f hlast,
      hall.searched f hlast, fun g hg => ?_, fun g hg => ?_⟩, rfl⟩⟩
    · exact hnames.2.2 g hg f (List.mem_singleton_self f)
    · exact hqueries.2.2 g hg f (List.mem_singleton_self f)
  · rintro ⟨r', hf⟩
    obtain ⟨⟨hname, hkey, hsearched, hnew, hquery⟩, -⟩ := register_eq_ok_iff.1 hf
    have hforall {p : Filter → Prop} (hr : ∀ g ∈ r.filters, p g) (hf : p f) :
        ∀ g ∈ r.filters ++ [f], p g := by
      intro g hg
      rcases List.mem_append.1 hg with hg | hg
      · exact hr g hg
      · exact List.mem_singleton.1 hg ▸ hf
    have hpairwise {p : Filter → Filter → Prop} (hr : r.filters.Pairwise p)
        (hf : ∀ g ∈ r.filters, p g f) : (r.filters ++ [f]).Pairwise p := by
      rw [List.pairwise_append]
      refine ⟨hr, List.pairwise_singleton _ _, fun g hg g' hg' => ?_⟩
      exact List.mem_singleton.1 hg' ▸ hf g hg
    exact ⟨⟨hforall h.isName hname, hforall h.noKey hkey, hforall h.searched hsearched,
      hpairwise h.distinct hquery⟩, hforall h.lowered (lowercase_queryName hname),
      hpairwise h.distinctNames hnew⟩

/-- **Every registry that is built is consistent.** -/
theorem Reachable.consistent {r : Registry} (h : r.Reachable) : r.Consistent := by
  induction h with
  | empty => exact consistent_empty
  | @register r r' f _ hf ih =>
    obtain ⟨-, rfl⟩ := register_eq_ok_iff.1 hf
    exact (ih.append_iff f).2 ⟨_, hf⟩

/-- Attempts build a registry, whether they succeed or not. -/
theorem reachable_afterAttempts (fs : List Filter) : (afterAttempts fs).Reachable := by
  have hrun : ∀ r : Registry, r.Reachable → (fs.foldl (attempt register) r).Reachable := by
    induction fs with
    | nil => exact fun _ h => h
    | cons f fs ih =>
      intro r h
      refine ih _ ?_
      unfold attempt
      split
      · rename_i r' hf
        exact .register h hf
      · exact h
  exact hrun _ .empty

/-- After the same attempts the registry with indexes agrees with the registry. -/
theorem agrees_afterAttempts (fs : List Filter) :
    (Indexed.afterAttempts fs).Agrees (afterAttempts fs) := by
  have hrun : ∀ (x : Indexed) (r : Registry), x.Agrees r →
      Indexed.Agrees (fs.foldl (attempt Indexed.register) x)
        (fs.foldl (attempt register) r) := by
    induction fs with
    | nil => exact fun _ _ h => h
    | cons f fs ih =>
      intro x r h
      refine ih _ _ ?_
      unfold attempt
      obtain ⟨e, hx, hr⟩ | ⟨x', r', hx, hr, h'⟩ := h.register f
      · rw [hx, hr]
        exact h
      · rw [hx, hr]
        exact h'
  exact hrun _ _ Indexed.agrees_empty

/-! ## Answers -/

/-- Looking through filters of which no two have the same name finds the one that has it. -/
theorem find?_eq_some_iff {key : Filter → String} {fs : List Filter}
    (h : fs.Pairwise fun f g => key f ≠ key g) (name : String) (f : Filter) :
    fs.find? (key · == name) = some f ↔ f ∈ fs ∧ key f = name := by
  constructor
  · intro hf
    have hname := List.find?_some (p := (key · == name)) hf
    exact ⟨List.mem_of_find?_eq_some hf, beq_iff_eq.1 hname⟩
  · rintro ⟨hf, rfl⟩
    obtain ⟨before, after, rfl⟩ := List.append_of_mem hf
    rw [List.pairwise_append] at h
    refine List.find?_eq_some_iff_append.2 ⟨beq_self_eq_true _, before, after, rfl, ?_⟩
    intro g hg
    simpa using h.2.2 g hg f List.mem_cons_self

theorem mem_names {r : Registry} {q : String} :
    q ∈ r.names ↔ ∃ f ∈ r.filters, f.queryName = q := by
  rw [names, (List.mergeSort_perm _ _).mem_iff, List.mem_map]

namespace Consistent

variable {r : Registry} (h : r.Consistent)

include h

/-- By a name the filter is found that has it. -/
theorem filter?_eq_some_iff (name : String) (f : Filter) :
    r.filter? name = some f ↔ f ∈ r.filters ∧ f.name = name :=
  find?_eq_some_iff h.distinctNames name f

/-- **By a name that is typed the filter is found whose name is that in lower case.** -/
theorem get?_eq_some_iff (typed : String) (f : Filter) :
    r.get? typed = some f ↔ f ∈ r.filters ∧ f.queryName = Text.lowercase typed := by
  have hexactly (name : String) (g : Filter) :
      r.exactly? name = some g ↔ g ∈ r.filters ∧ g.queryName = name :=
    find?_eq_some_iff h.distinct name g
  rw [get?, Option.or_eq_some_iff, hexactly, hexactly]
  constructor
  · rintro (⟨hf, rfl⟩ | ⟨-, hf⟩)
    · exact ⟨hf, (h.lowered f hf).symm⟩
    · exact hf
  · rintro ⟨hf, hname⟩
    by_cases hexact : r.exactly? typed = none
    · exact .inr ⟨hexact, hf, hname⟩
    · -- What is found as it was typed is in lower case, so it is what is looked for.
      obtain ⟨g, hg⟩ := Option.ne_none_iff_exists'.1 hexact
      obtain ⟨hmem, rfl⟩ := (hexactly typed g).1 hg
      rw [h.lowered g hmem] at hname
      exact .inl ⟨hf, hname⟩

/-- The case in which a name is typed does not matter. -/
theorem get?_congr {typed typed' : String} (hcase : Text.lowercase typed = Text.lowercase typed') :
    r.get? typed = r.get? typed' := by
  ext f
  rw [h.get?_eq_some_iff, h.get?_eq_some_iff, hcase]

/-- The names in queries are listed in order, each of them once. -/
theorem names_increasing : r.names.Pairwise (· < ·) := by
  have hsorted : r.names.Pairwise (· ≤ ·) := List.pairwise_mergeSort' _ _
  have hnodup : r.names.Nodup :=
    (List.mergeSort_perm _ _).nodup_iff.2 (List.pairwise_map.2 h.distinct)
  refine (hsorted.and hnodup).imp ?_
  rintro a b ⟨hle, hne⟩
  exact lt_of_le_of_ne hle hne

/-- **A search for text asks each filter that is searched for the text as it is.** -/
theorem compileFreetext_eq_ok (hne : r.freetextFilters ≠ []) (text : String) :
    r.compileFreetext text
      = .ok (.any (r.freetextFilters.map fun f => f.searchFor (.text text))) := by
  have hparts : r.freetextFilters.mapM (freetextPart text)
      = .ok (r.freetextFilters.map fun f => f.attr.map fun _ => f.searchFor (.text text)) := by
    refine mapM_eq_ok_map fun f hf => ?_
    -- A filter that is searched accepts the operator that it is searched with.
    obtain ⟨hmem, hsearched⟩ := List.mem_filter.1 hf
    exact f.freetextPart_eq_ok (h.searched f hmem hsearched) text
  unfold compileFreetext
  rw [if_neg (by simpa using hne), hparts, Except.map, Predicate.any_filterMap_id, List.map_map]
  refine congrArg (Except.ok <| Predicate.any ·) (List.map_congr_left fun f _ => ?_)
  cases hattr : f.attr with
  | none => simp [hattr, Filter.searchFor_of_attr_eq_none hattr]
  | some attr => simp [hattr]

/-- **A search for text fails for one reason only**, that there is no filter to be searched. -/
theorem compileFreetext_eq_error_iff (text : String) (e : QueryError) :
    r.compileFreetext text = .error e ↔
      e = .noFreetextFilters ∧ ∀ f ∈ r.filters, f.freetext = false := by
  have hnone : r.freetextFilters = [] ↔ ∀ f ∈ r.filters, f.freetext = false := by
    rw [freetextFilters, List.filter_eq_nil_iff]
    simp only [Bool.not_eq_true]
  rw [← hnone]
  by_cases hempty : r.freetextFilters = []
  · unfold compileFreetext
    rw [if_pos (List.isEmpty_iff.2 hempty)]
    constructor
    · intro he
      exact ⟨(Except.error.inj he).symm, hempty⟩
    · rintro ⟨rfl, -⟩
      rfl
  · rw [h.compileFreetext_eq_ok hempty]
    constructor
    · intro he
      exact absurd he nofun
    · rintro ⟨-, hnil⟩
      exact absurd hnil hempty

end Consistent

/-! ## Runs -/

/-- **What registration brings about**, whatever filters are attempted.

The registry lists the filters that were accepted, in that order, and is consistent. A name leads to
the one filter that has it, and a name that is typed to the one whose name it is in lower case, so
that the case does not matter; the names in queries are listed in order. A filter is refused if and
only if the registry would not be consistent with it, and a search for text fails if and only if
there is no filter to be searched. A registry with indexes that goes through the same has the same
filters, gives the same answers and refuses the same filters for the same reasons. -/
theorem consistent_answers (fs : List Filter) :
    let r := afterAttempts fs
    let x := Indexed.afterAttempts fs
    (r.filters = empty.acceptedFrom fs ∧ r.filters.length = (empty.acceptedFrom fs).length ∧
      r.Consistent) ∧
    (∀ name f, r.filter? name = some f ↔ f ∈ r.filters ∧ f.name = name) ∧
    (∀ typed f, r.get? typed = some f ↔ f ∈ r.filters ∧ f.queryName = Text.lowercase typed) ∧
    (∀ typed typed', Text.lowercase typed = Text.lowercase typed' → r.get? typed = r.get? typed') ∧
    (r.names.Pairwise (· < ·) ∧ ∀ q, q ∈ r.names ↔ ∃ f ∈ r.filters, f.queryName = q) ∧
    (∀ f, (∃ e, r.register f = .error e) ↔ ¬ Consistent ⟨r.filters ++ [f]⟩) ∧
    (∀ text e, r.compileStatement (.freetext text) = .error e ↔
      e = .noFreetextFilters ∧ ∀ f ∈ r.filters, f.freetext = false) ∧
    x.filters.toList = r.filters ∧ (∀ name, x.filter? name = r.filter? name) ∧
      (∀ typed, x.get? typed = r.get? typed) ∧ x.names = r.names ∧
      ∀ f e, x.register f = .error e ↔ r.register f = .error e := by
  intro r x
  have hr : r.Consistent := (reachable_afterAttempts fs).consistent
  have hx : x.Agrees r := agrees_afterAttempts fs
  have hfilters : r.filters = empty.acceptedFrom fs := filters_foldl_attempt empty fs
  refine ⟨⟨hfilters, congrArg List.length hfilters, hr⟩, hr.filter?_eq_some_iff,
    hr.get?_eq_some_iff, fun _ _ => hr.get?_congr, ⟨hr.names_increasing, fun _ => mem_names⟩, ?_,
    hr.compileFreetext_eq_error_iff, hx.filters, hx.filter?_eq, hx.get?_eq,
    hx.names_eq hr.distinct, hx.register_eq_error_iff⟩
  intro f
  rw [hr.append_iff]
  cases r.register f <;> simp

/-- Among the attempts are one whose name in queries is taken, one that is a reserved word, and one
that is searched for text but cannot be asked what it contains. One name in queries is typed with
the Kelvin sign, whose small letter is in ASCII. -/
theorem consistent_answers_kelvin :
    let fs := [{ Filter.text "Title" with freetext := true }, Filter.integer "TITLE",
      Filter.boolean "and", { Filter.integer "Year" with freetext := true }, Filter.integer "Year",
      (Filter.text "Code").withQueryName "\u212Aey"]
    let r := afterAttempts fs
    r.filters.map (·.name) = ["Title", "Year", "Code"] ∧
      Text.lowercase "KEY" = Text.lowercase "\u212AEY" ∧ r.get? "KEY" = r.get? "\u212AEY" ∧
      (r.get? "\u212AEY").map (·.name) = some "Code" := by
  intro fs r
  have hcase : Text.lowercase "KEY" = Text.lowercase "\u212AEY" := by decide +kernel
  obtain ⟨-, -, -, hget, -⟩ := consistent_answers fs
  exact ⟨by decide +kernel, hcase, hget _ _ hcase, by decide +kernel⟩

end FilterQuery.Registry
