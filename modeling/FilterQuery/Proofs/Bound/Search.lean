/-
A search for text, made directly and written down.

An application that searches for a text may have the predicate made of the filters that are searched,
or it may write the search as the text of a query and have that compiled. The first asks each filter
for the text as it is. The second has each filter read the text first, as it reads every value that
is typed. The two come to the same if all filters take any text as it is; but registration also lets
filters be searched that hold addresses. Such a filter refuses most texts, so what is written does not
even compile, and from a text that it takes it drops the blanks around the address.

How far the two agree can be said exactly, for each text (`BoundValues.search_agrees_iff`).
-/
import FilterQuery.Proofs.Bound.Query
import FilterQuery.Proofs.Compile.Addressed
import FilterQuery.Proofs.Compile.Canonical
import FilterQuery.Proofs.Kinds

set_option autoImplicit false

namespace FilterQuery

namespace Filter

variable {f : Filter}

/-- The filter can be searched, and what it then asks for is up to the table of operators. -/
structure Searchable (f : Filter) : Prop where
  accepts : f.operators.accepts .contains = true
  rule : f.rule = .compare
  reads : f.ReadsText

theorem isCanonical_searchFor (f : Filter) (v : Value) : (f.searchFor v).IsCanonical := by
  unfold searchFor
  split
  · exact ResolvedOperator.isCanonical_predicate _ _ _
  · exact Predicate.isCanonical_empty

/-- There is one comparison with the value, if there is an attribute. -/
theorem exists_leaves_searchFor (hf : f.operators.accepts .contains = true) :
    ∃ c, ∀ v, (f.searchFor v).leaves = (f.attr.map fun attr => ⟨attr, c, .value v⟩).toList := by
  obtain ⟨meaning, hmeaning⟩ := Option.isSome_iff_exists.1 hf
  refine ⟨meaning.comparison, fun v => ?_⟩
  unfold searchFor
  rw [hmeaning]
  cases f.attr with
  | none => rfl
  | some attr =>
    dsimp only
    rw [ResolvedOperator.predicate, Predicate.leaves_negateIf, Predicate.compare,
      Predicate.leaves]
    rfl

/-- A filter that can be searched answers with what it asks for to contain the value that it has
read. -/
theorem Searchable.answer (hf : f.Searchable) (text : String) :
    f.answer .contains text = match f.read text with
      | .error e => .error (.invalidValue f.name e)
      | .ok v => .ok (f.searchFor v) := by
  unfold Filter.answer
  cases f.read text with
  | error e => rfl
  | ok v =>
    dsimp only
    rw [if_pos hf.accepts, predicate?_contains hf.rule hf.accepts]

end Filter

namespace Registry

variable {r : Registry} {text : String}

/-! ## Searches among some filters -/

/-- A search is in normal form, whatever each filter is to contain. -/
theorem isCanonical_any_searchFor (fs : List Filter) (v : Filter → Value) :
    (Predicate.any (fs.map fun f => f.searchFor (v f))).IsCanonical := by
  refine Predicate.isCanonical_applyAll .or fun p hp => ?_
  obtain ⟨f, -, rfl⟩ := List.mem_map.1 hp
  exact f.isCanonical_searchFor (v f)

/-- **Two searches among the same filters are the same if and only if each filter with an attribute
is asked for the same value.** -/
theorem any_searchFor_eq_iff {fs : List Filter}
    (hfs : ∀ f ∈ fs, f.operators.accepts .contains = true) (v w : Filter → Value) :
    Predicate.any (fs.map fun f => f.searchFor (v f))
        = Predicate.any (fs.map fun f => f.searchFor (w f)) ↔
      ∀ f ∈ fs, f.attr = none ∨ v f = w f := by
  constructor
  · intro heq
    -- Groups hide which filter a comparison is from, but the leaves are still in order.
    have hleaves : Predicate.leavesEach (fs.map fun f => f.searchFor (v f))
        = Predicate.leavesEach (fs.map fun f => f.searchFor (w f)) := by
      rw [← Predicate.leaves_applyAll .or, ← Predicate.leaves_applyAll .or]
      exact congrArg Predicate.leaves heq
    clear heq
    induction fs with
    | nil => exact fun f hf => absurd hf List.not_mem_nil
    | cons f fs ih =>
      obtain ⟨hf, hfs⟩ := List.forall_mem_cons.1 hfs
      obtain ⟨c, hc⟩ := Filter.exists_leaves_searchFor hf
      rw [List.map_cons, List.map_cons, Predicate.leavesEach, Predicate.leavesEach, hc, hc]
        at hleaves
      -- The filter contributes as many leaves with one value as with the other.
      obtain ⟨hfirst, hrest⟩ := List.append_inj hleaves (by cases f.attr <;> rfl)
      refine List.forall_mem_cons.2 ⟨?_, ih hfs hrest⟩
      cases hattr : f.attr with
      | none => exact .inl rfl
      | some attr =>
        rw [hattr] at hfirst
        exact .inr (by simpa using hfirst)
  · intro h
    refine congrArg Predicate.any (List.map_congr_left fun f hf => ?_)
    rcases h f hf with hattr | hv
    · rw [Filter.searchFor_of_attr_eq_none hattr, Filter.searchFor_of_attr_eq_none hattr]
    · rw [hv]

/-- Where each filter reads the text, the answers are a search for what they have read. -/
theorem mapM_answer_eq_ok {fs : List Filter} (hfs : ∀ f ∈ fs, f.Searchable) {v : Filter → Value}
    (hv : ∀ f ∈ fs, f.read text = .ok (v f)) :
    fs.mapM (fun f : Filter => f.answer .contains text)
      = .ok (fs.map fun f => f.searchFor (v f)) := by
  refine mapM_eq_ok_map fun f hf => ?_
  rw [(hfs f hf).answer, hv f hf]

/-- There are answers from all only where each of them reads the text. -/
theorem forall_read_of_mapM_answer {fs : List Filter} (hfs : ∀ f ∈ fs, f.Searchable)
    {ps : List Predicate} (h : fs.mapM (fun f : Filter => f.answer .contains text) = .ok ps) :
    ∀ f ∈ fs, ∃ v, f.read text = .ok v := by
  intro f hf
  obtain ⟨p, hp⟩ := exists_eq_ok_of_mapM h f hf
  rw [(hfs f hf).answer] at hp
  split at hp
  · simp at hp
  · rename_i v hv
    exact ⟨v, hv⟩

/-- **A search for what each filter has read is the search for the text** if and only if what is read
by those with an attribute is the text. -/
theorem normalized_any_searchFor_eq_iff {fs : List Filter} (hfs : ∀ f ∈ fs, f.Searchable)
    {v : Filter → Value} (hv : ∀ f ∈ fs, f.read text = .ok (v f)) :
    (Predicate.any (fs.map fun f => f.searchFor (v f))).normalized
        = (Predicate.any (fs.map fun f => f.searchFor (.text text))).normalized ↔
      ∀ f ∈ fs, f.attr = none ∨ f.read = Value.readText ∨ Text.trim text = text := by
  have hnormal (w : Filter → Value) :=
    (Predicate.isCanonical_iff_normalized_eq _).1 (isCanonical_any_searchFor fs w)
  -- Both are in normal form already.
  rw [hnormal v, hnormal fun _ => .text text,
    any_searchFor_eq_iff (fun f hf => (hfs f hf).accepts) v fun _ => .text text]
  exact forall₂_congr fun f hf => or_congr_right ((hfs f hf).reads.eq_text_iff (hv f hf))

/-! ## The two ways -/

/-- The filters of usual kinds that are searched can all be. -/
theorem Consistent.searchable (h : r.Consistent) (husual : ∀ f ∈ r.filters, f.IsUsual) :
    ∀ f ∈ r.freetextFilters, f.Searchable := by
  intro f hf
  obtain ⟨hmem, hsearched⟩ := List.mem_filter.1 hf
  have haccepts : f.operators.accepts .contains = true := h.searched f hmem hsearched
  obtain ⟨hrule, hreads⟩ := (husual f hmem).of_accepts_contains haccepts
  exact ⟨haccepts, hrule, hreads⟩

/-- **A search that is written down is answered by each filter that is searched**, and by the first
error if there is one. -/
theorem Consistent.compileWithin_writeFreetext (h : r.Consistent) {s : String}
    (hs : r.writeFreetext text = [s]) {limits : Limits} (hdepth : 1 ≤ limits.maxDepth)
    (hlength : byteLength s.toList ≤ limits.maxLength) :
    r.compileWithin limits s
      = (r.freetextFilters.mapM fun f : Filter => f.answer .contains text).map .any := by
  obtain ⟨hnone, -⟩ | ⟨s', n, hs', hn, hwrites⟩ := h.writeFreetext_eq text
  · rw [hnone] at hs
    simp at hs
  obtain rfl : s' = s := by simpa [hs'] using hs
  have hne : r.freetextFilters ≠ [] := by
    intro hnil
    simp [searchCondition?, hnil] at hn
  have hgroup : n = .group ((r.freetextFilters.map
      fun f => f.comparison .contains (.quoted text)).intersperse (.connective .or)) := by
    unfold searchCondition? at hn
    split at hn
    · simp at hn
    · exact (Option.some.inj hn).symm
  -- Being in parentheses it is left alone by trimming.
  have htrim : Text.trim s' = s' := by
    unfold writeFreetext at hs'
    rw [if_neg (by simpa using hne), List.cons.injEq] at hs'
    rw [← hs'.1]
    refine IsTrimmed.trim ?_
    rw [String.toList_append, String.toList_append]
    exact isTrimmed_parentheses _
  have hread : Query.parseWithin limits (Text.trim s') = .ok ⟨[n]⟩ := by
    rw [htrim]
    exact hwrites.expression.parseWithin hdepth hlength
  rw [compileWithin_of_parseWithin hread (List.cons_ne_nil _ _), hgroup, compileNodes_group]
  refine compileNodes_intersperse .or hne fun f hf => ?_
  have hmem : f ∈ r.filters := (List.mem_filter.1 hf).1
  rw [Filter.comparison, compileNode, compileStatement, h.compileComparison_quoted hmem rfl]

end Registry

namespace BoundValues

variable {r : Registry} {text : String}

/-- Nothing is bound to filters where there is only a search. -/
theorem onFilters_search (r : Registry) (text : String) :
    (({} : BoundValues).search text).onFilters r = [] := by
  simp [onFilters, get?, search]

theorem freetext?_search (htext : text ≠ "") :
    (({} : BoundValues).search text).freetext? = some text := by
  simp [freetext?, search, htext]

/-- Then the search is all that is asked for. -/
theorem predicate_search (r : Registry) (htext : text ≠ "") :
    (({} : BoundValues).search text).predicate r = r.compileFreetext text := by
  unfold predicate
  rw [onFilters_search, freetext?_search htext, List.mapM_nil, pure_bind]
  dsimp only
  cases r.compileFreetext text <;> rfl

/-- It is also all that is written. -/
theorem exists_write_search (hne : r.freetextFilters ≠ []) (htext : text ≠ "") :
    ∃ s, r.writeFreetext text = [s] ∧ (({} : BoundValues).search text).write r = s := by
  have hwritten : ∃ s, r.writeFreetext text = [s] := by
    unfold Registry.writeFreetext
    rw [if_neg (by simpa using hne)]
    exact ⟨_, rfl⟩
  obtain ⟨s, hs⟩ := hwritten
  refine ⟨s, hs, ?_⟩
  unfold write
  simp only [onFilters_search, freetext?_search htext, hs, List.map_nil, List.nil_append]
  exact String.intercalate_singleton

/-- **How far a search that is made directly and one that is written down agree.**

The filters are of the usual kinds, with the operators of their kinds. The search always has a
predicate, the same as quoted text that is compiled. What is written for it compiles if and only if
every filter that is searched reads the text. It compiles to the same predicate if and only if, in
addition, there are no blanks around the text, unless every filter that is searched and has an
attribute is for text. So with filters for text only the two agree on every text. -/
theorem search_agrees_iff (hr : r.Reachable) (husual : ∀ f ∈ r.filters, f.IsUsual)
    (hne : r.freetextFilters ≠ []) (text : String) (htext : text ≠ "") (limits : Limits)
    (hdepth : 1 ≤ limits.maxDepth)
    (hquoted : byteLength (Text.quote text).toList ≤ limits.maxLength)
    (hlength : byteLength ((({} : BoundValues).search text).write r).toList ≤ limits.maxLength) :
    let b := ({} : BoundValues).search text
    ∃ p, b.predicate r = .ok p ∧ r.compileWithin limits (Text.quote text) = .ok p ∧
      ((∃ q, r.compileWithin limits (b.write r) = .ok q) ↔
        ∀ f ∈ r.freetextFilters, ∃ v, f.read text = .ok v) ∧
      ((∃ q, r.compileWithin limits (b.write r) = .ok q ∧ q.normalized = p.normalized) ↔
        ∀ f ∈ r.freetextFilters, (∃ v, f.read text = .ok v) ∧
          (f.attr = none ∨ f.read = Value.readText ∨ Text.trim text = text)) := by
  intro b
  have hconsistent : r.Consistent := hr.consistent
  have hsearchable := hconsistent.searchable husual
  have hdirect := hconsistent.compileFreetext_eq_ok hne text
  have hwritten : r.compileWithin limits (b.write r)
      = (r.freetextFilters.mapM fun f : Filter => f.answer .contains text).map .any := by
    obtain ⟨s, hs, hwrite⟩ := exists_write_search hne htext
    rw [hwrite] at hlength ⊢
    exact hconsistent.compileWithin_writeFreetext hs hdepth hlength
  -- What is written asks for what the filters have read, what is made directly for the text.
  have hcompiles {v : Filter → Value} (hv : ∀ f ∈ r.freetextFilters, f.read text = .ok (v f)) :
      r.compileWithin limits (b.write r)
        = .ok (.any (r.freetextFilters.map fun f => f.searchFor (v f))) := by
    rw [hwritten, Registry.mapM_answer_eq_ok hsearchable hv]
    rfl
  have hreads {q : Predicate} (hq : r.compileWithin limits (b.write r) = .ok q) :
      ∀ f ∈ r.freetextFilters, ∃ v, f.read text = .ok v := by
    obtain ⟨ps, hps, -⟩ := exists_of_map_eq_ok (hwritten.symm.trans hq)
    exact Registry.forall_read_of_mapM_answer hsearchable hps
  refine ⟨_, (predicate_search r htext).trans hdirect, ?_, ?_, ?_⟩
  · exact (r.compileWithin_render (s := .freetext text) trivial hquoted).trans hdirect
  · constructor
    · rintro ⟨q, hq⟩
      exact hreads hq
    · intro hall
      choose! v hv using hall
      exact ⟨_, hcompiles hv⟩
  · constructor
    · rintro ⟨q, hq, heq⟩ f hf
      have hall := hreads hq
      choose! v hv using hall
      obtain rfl := Except.ok.inj (hq.symm.trans (hcompiles hv))
      exact ⟨⟨_, hv f hf⟩,
        (Registry.normalized_any_searchFor_eq_iff hsearchable hv).1 heq f hf⟩
    · intro hall
      choose! v hv using fun f hf => (hall f hf).1
      exact ⟨_, hcompiles hv, (Registry.normalized_any_searchFor_eq_iff hsearchable hv).2
        fun f hf => (hall f hf).2⟩

/-- A title and an address are searched. For an address the two agree; with a blank in front of it
they do not. -/
theorem search_agrees_iff_address :
    let r : Registry := ⟨[{ Filter.text "title" with freetext := true }, Filter.integer "year",
      { Filter.email "contact" with attr := some "owner.mail", freetext := true }]⟩
    let b (text : String) := ({} : BoundValues).search text
    (∃ p q, (b "dio@example.com").predicate r = .ok p ∧
      r.compileWithin {} ((b "dio@example.com").write r) = .ok q ∧ q.normalized = p.normalized) ∧
    ∃ p q, (b " dio@example.com").predicate r = .ok p ∧
      r.compileWithin {} ((b " dio@example.com").write r) = .ok q ∧
        q.normalized ≠ p.normalized := by
  intro r b
  have hr : r.Reachable := by
    refine .register (.register (.register .empty (Registry.register_eq_ok_iff.2 ⟨?_, rfl⟩))
      (Registry.register_eq_ok_iff.2 ⟨?_, rfl⟩)) (Registry.register_eq_ok_iff.2 ⟨?_, rfl⟩)
    all_goals decide
  have husual : ∀ f ∈ r.filters, f.IsUsual := by
    rw [List.forall_mem_cons, List.forall_mem_cons, List.forall_mem_singleton]
    exact ⟨.text "title" ⟨rfl, rfl, rfl⟩, .integer "year" ⟨rfl, rfl, rfl⟩,
      .email "contact" ⟨rfl, rfl, rfl⟩⟩
  let contact : Filter :=
    { Filter.email "contact" with attr := some "owner.mail", freetext := true }
  have hsearched : r.freetextFilters = [{ Filter.text "title" with freetext := true }, contact] :=
    rfl
  have hread {text : String} (h : contact.read text = .ok (.text "dio@example.com")) :
      ∀ f ∈ r.freetextFilters, ∃ v, f.read text = .ok v := by
    rw [hsearched, List.forall_mem_cons, List.forall_mem_singleton]
    exact ⟨⟨_, rfl⟩, _, h⟩
  constructor
  · obtain ⟨p, hp, -, -, hsame⟩ := search_agrees_iff hr husual (List.cons_ne_nil _ _)
      "dio@example.com" (by decide) {} (by decide) (by decide +kernel) (by decide +kernel)
    obtain ⟨q, hq, heq⟩ := hsame.2 fun f hf => ⟨hread rfl f hf, .inr (.inr (by decide))⟩
    exact ⟨p, q, hp, hq, heq⟩
  · obtain ⟨p, hp, -, hcompiles, hsame⟩ := search_agrees_iff hr husual (List.cons_ne_nil _ _)
      " dio@example.com" (by decide) {} (by decide) (by decide +kernel) (by decide +kernel)
    obtain ⟨q, hq⟩ := hcompiles.2 (hread rfl)
    refine ⟨p, q, hp, hq, fun heq => ?_⟩
    -- The filter for addresses has an attribute, is not for text, and there is a blank.
    have hcontact : contact ∈ r.freetextFilters := by
      rw [hsearched]
      exact List.mem_cons_of_mem _ (List.mem_singleton_self contact)
    obtain ⟨-, hattr | htext | htrim⟩ := hsame.1 ⟨q, hq, heq⟩ contact hcontact
    · exact absurd hattr (by decide)
    · have hnone : contact.read "" = .error .notEmail := rfl
      rw [htext] at hnone
      exact absurd hnone nofun
    · exact absurd htrim (by decide)

/-- **A search that is made directly may have no text that compiles.** One filter for addresses is
searched, for a text that is no address. -/
theorem exists_search_without_text :
    let r : Registry := ⟨[{ Filter.email "contact" with freetext := true }]⟩
    let b := ({} : BoundValues).search "dio"
    (r.Reachable ∧ (∀ f ∈ r.filters, f.IsUsual) ∧ r.freetextFilters ≠ []) ∧
      b.predicate r = .ok (.compare "contact" .icontains (.value (.text "dio"))) ∧
      b.write r = "(contact:\"dio\")" ∧
      r.compileWithin {} (b.write r) = .error (.invalidValue "contact" .notEmail) := by
  intro r b
  have hr : r.Reachable :=
    .register .empty (Registry.register_eq_ok_iff.2 ⟨by decide, rfl⟩)
  have husual : ∀ f ∈ r.filters, f.IsUsual :=
    List.forall_mem_singleton.2 (.email "contact" ⟨rfl, rfl, rfl⟩)
  have hwrite : b.write r = "(contact:\"dio\")" := by decide +kernel
  have hfreetext : r.writeFreetext "dio" = ["(contact:\"dio\")"] := by decide +kernel
  have hcompile : r.compileWithin {} "(contact:\"dio\")"
      = .error (.invalidValue "contact" .notEmail) :=
    hr.consistent.compileWithin_writeFreetext hfreetext (by decide) (by decide +kernel)
  exact ⟨⟨hr, husual, List.cons_ne_nil _ _⟩, rfl, hwrite, hwrite ▸ hcompile⟩

end BoundValues

end FilterQuery
