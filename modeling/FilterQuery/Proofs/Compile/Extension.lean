/-
Registering another filter leaves queries alone.

A text that has been stored is compiled again later, perhaps after filters have been added. It has to
mean what it meant before. There are three places where compiling looks at the registry as a whole: a
name is looked up, a bare value may be the name of a filter and stands for its attribute then, and a
search for text goes to every filter that is searched. A name that led to a filter leads to the same
one, since the new filter has another name. So a text changes its meaning only if a bare value in it
is the name of the new filter and that has an attribute, or if it searches for text and the new
filter is searched; and those are the conditions of the main statement.
-/
import FilterQuery.Proofs.Compile.Statements
import FilterQuery.Proofs.Registry.Runs

set_option autoImplicit false

namespace FilterQuery

/-! ## What a query says without naming a filter -/

/-- The value of a comparison, if it is not in quotes. -/
def Statement.bareValue? : Statement → Option String
  | .comparison _ _ (.bare text) => some text
  | _ => none

/-- The values in a query that are not in quotes. -/
def Query.bareValues (q : Query) : List String :=
  q.statements.filterMap Statement.bareValue?

/-- Does the query search for text? -/
def Query.Searches (q : Query) : Prop :=
  ∃ text, .freetext text ∈ q.statements

namespace Registry

variable {r r' : Registry} {f : Filter}

/-! ## Names -/

/-- **After a filter has been registered its name leads to it**, and all other names lead where they
led before. -/
theorem get?_of_register (hr : r.Reachable) (hf : r.register f = .ok r') (typed : String) :
    r'.get? typed = if Text.lowercase typed = f.queryName then some f else r.get? typed := by
  have hold : r.Consistent := hr.consistent
  have hnew : r'.Consistent := (Reachable.register hr hf).consistent
  obtain ⟨-, heq⟩ := register_eq_ok_iff.1 hf
  have hmem (g : Filter) : g ∈ r'.filters ↔ g ∈ r.filters ∨ g = f := by
    rw [← heq, List.mem_append, List.mem_singleton]
  split
  · rename_i hname
    exact (hnew.get?_eq_some_iff typed f).2 ⟨(hmem f).2 (.inr rfl), hname.symm⟩
  · rename_i hname
    ext g
    rw [hnew.get?_eq_some_iff, hold.get?_eq_some_iff, hmem]
    constructor
    · rintro ⟨hg | rfl, hquery⟩
      · exact ⟨hg, hquery⟩
      · exact absurd hquery.symm hname
    · rintro ⟨hg, hquery⟩
      exact ⟨.inl hg, hquery⟩

/-- A name that led to a filter is not the name of the new one. -/
theorem lowercase_ne_of_get? (hr : r.Reachable) (hf : r.register f = .ok r') {typed : String}
    {g : Filter} (hg : r.get? typed = some g) : Text.lowercase typed ≠ f.queryName := by
  obtain ⟨⟨-, -, -, -, hquery⟩, -⟩ := register_eq_ok_iff.1 hf
  obtain ⟨hmem, hname⟩ := (hr.consistent.get?_eq_some_iff typed g).1 hg
  rw [← hname]
  exact hquery g hmem

theorem resolve_of_register (hr : r.Reachable) (hf : r.register f = .ok r') {typed : String}
    {g : Filter} (hg : r.resolve typed = .ok g) : r'.resolve typed = .ok g := by
  rw [resolve_eq_ok_iff] at hg ⊢
  rw [get?_of_register hr hf, if_neg (lowercase_ne_of_get? hr hf hg), hg]

/-- A value stands for what it stood for, unless it is the name of the new filter and that has an
attribute. -/
theorem fieldReference?_of_register (hr : r.Reachable) (hf : r.register f = .ok r')
    {value : Literal}
    (hvalue : f.attr = none ∨ ∀ text, value = .bare text → Text.lowercase text ≠ f.queryName) :
    r'.fieldReference? value = r.fieldReference? value := by
  cases value with
  | quoted text => rfl
  | null => rfl
  | bare text =>
    rw [fieldReference?, fieldReference?, get?_of_register hr hf]
    split
    · rename_i hname
      -- The new filter has no attribute then, and no filter had that name before.
      have hattr : f.attr = none := hvalue.resolve_right fun hne => hne text rfl hname
      have hnone : r.get? text = none := by
        refine Option.eq_none_iff_forall_ne_some.2 fun g hg => ?_
        exact lowercase_ne_of_get? hr hf hg hname
      rw [hnone, Option.bind_some, hattr, Option.bind_none]
    · rfl

/-! ## Statements -/

/-- A statement compiles as before, unless its value is the name of the new filter or it searches
where the new filter is searched. -/
theorem compileStatement_of_register (hr : r.Reachable) (hf : r.register f = .ok r')
    {s : Statement} {p : Predicate}
    (hvalue : f.attr = none ∨ ∀ text ∈ s.bareValue?, Text.lowercase text ≠ f.queryName)
    (hsearch : f.freetext = false ∨ ∀ text, s ≠ .freetext text)
    (h : r.compileStatement s = .ok p) : r'.compileStatement s = .ok p := by
  cases s with
  | comparison name op value =>
    rw [compileStatement, compileComparison] at h
    rw [compileStatement, compileComparison]
    split at h
    · obtain ⟨g, hg, hp⟩ := exists_of_bind_eq_ok h
      rw [resolve_of_register hr hf hg]
      exact hp
    · obtain ⟨g, hg, hp⟩ := exists_of_bind_eq_ok h
      have hfield : r'.fieldReference? value = r.fieldReference? value := by
        refine fieldReference?_of_register hr hf (hvalue.imp_right fun hne text htext => ?_)
        exact hne text (by rw [htext]; rfl)
      have hliteral : r'.compileLiteral g op value = r.compileLiteral g op value := by
        unfold compileLiteral
        rw [hfield]
      rw [resolve_of_register hr hf hg, Except.bind, hliteral]
      exact hp
  | flag name negated =>
    obtain ⟨g, hg, hp⟩ := exists_of_bind_eq_ok h
    rw [compileStatement, compileFlag, resolve_of_register hr hf hg]
    exact hp
  | freetext text =>
    have hfreetext : f.freetext = false := hsearch.resolve_right fun hne => hne text rfl
    obtain ⟨-, heq⟩ := register_eq_ok_iff.1 hf
    have hsame : r'.freetextFilters = r.freetextFilters := by
      rw [← heq, freetextFilters, freetextFilters, List.filter_append]
      simp [hfreetext]
    rw [compileStatement, compileFreetext, hsame]
    exact h

/-! ## Texts -/

/-- **Registering another filter leaves a query alone.**

A text that compiles to a predicate compiles to the same one after another filter has been
registered, whatever that filter is, if two things hold of the query that is read: the filter has no
attribute, or no value that is not in quotes is its name in lower case; and the filter is not
searched, or the query does not search for text. -/
theorem compileWithin_of_register (hr : r.Reachable) (hf : r.register f = .ok r')
    {limits : Limits} {text : String} {p : Predicate} (h : r.compileWithin limits text = .ok p)
    {q : Query} (hq : Query.parseWithin limits (Text.trim text) = .ok q)
    (hvalues : f.attr = none ∨ ∀ value ∈ q.bareValues, Text.lowercase value ≠ f.queryName)
    (hsearch : f.freetext = false ∨ ¬ q.Searches) : r'.compileWithin limits text = .ok p := by
  refine compileWithin_congr hq (fun s hs p hp => ?_) h
  refine compileStatement_of_register hr hf (hvalues.imp_right fun hne value hvalue => ?_)
    (hsearch.imp_right fun hnone value hvalue => hnone ⟨value, hvalue ▸ hs⟩) hp
  exact hne value (List.mem_filterMap.2 ⟨s, hs, hvalue⟩)

/-- The new filter is searched, but the text names filters only. Its name is in the text in quotes;
the bare value that names a filter names one that there was before. -/
theorem compileWithin_of_register_quoted :
    let fs := [{ Filter.text "title" with freetext := true }, Filter.integer "year",
      { Filter.text "label" with attr := some "disc.label" }]
    let f := { Filter.text "Artist" with attr := some "disc.artist", freetext := true }
    let r : Registry := ⟨fs⟩
    let r' : Registry := ⟨fs ++ [f]⟩
    let text := "title=LABEL and (title:\"artist\" or Year>=1983) "
    let p : Predicate := .conj [.compare "title" .iexact (.field "disc.label"),
      .disj [.compare "title" .icontains (.value (.text "artist")),
        .compare "year" .gte (.value (.int 1983))]]
    r.Reachable ∧ r.register f = .ok r' ∧ r.compileWithin {} text = .ok p ∧
      r'.compileWithin {} text = .ok p := by
  intro fs f r r' text p
  have hr : r.Reachable := by
    refine .register (.register (.register .empty (register_eq_ok_iff.2 ⟨?_, rfl⟩))
      (register_eq_ok_iff.2 ⟨?_, rfl⟩)) (register_eq_ok_iff.2 ⟨?_, rfl⟩)
    all_goals decide
  have hf : r.register f = .ok r' := register_eq_ok_iff.2 ⟨by decide, rfl⟩
  let q : Query := ⟨[.statement (.comparison "title" .eq (.bare "LABEL")), .connective .and,
    .group [.statement (.comparison "title" .contains (.quoted "artist")), .connective .or,
      .statement (.comparison "Year" .gte (.bare "1983"))]]⟩
  have hq : Query.parseWithin {} (Text.trim text) = .ok q :=
    eq_ok_of_toOption (by decide +kernel)
  have hp : r.compileWithin {} text = .ok p := by
    rw [compileWithin_of_parseWithin hq (List.cons_ne_nil _ _)]
    rfl
  have hvalues : ∀ value ∈ q.bareValues, Text.lowercase value ≠ f.queryName := by
    decide +kernel
  have hsearch : ¬ q.Searches := by
    rintro ⟨searched, hmem⟩
    simp [q, Query.statements, Node.statementsEach, Node.statements] at hmem
  exact ⟨hr, hf, hp, compileWithin_of_register hr hf hp hq (.inr hvalues) (.inr hsearch)⟩

end Registry

end FilterQuery
