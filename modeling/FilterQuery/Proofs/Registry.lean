/-
What registering filters brings about.

A registry is only ever built by registering one filter after the other, so what registration checks
of each filter holds of all of them: their names can be typed and are told apart, in lower case as
they are, and none of them could be taken for the key of another filter. So each filter is found by
its own name, and a number that is typed as a value is never taken for the name of one.
-/
import FilterQuery.Compile
import FilterQuery.Proofs.Number.Bare
import FilterQuery.Proofs.Text.Lowercase

set_option autoImplicit false

namespace FilterQuery

namespace Registry

/-! ## Registries that are built -/

/-- A registry that is built by registering filters. -/
inductive Reachable : Registry → Prop
  | empty : Reachable Registry.empty
  | register {r r' : Registry} {f : Filter} (h : Reachable r) (hf : r.register f = .ok r') :
      Reachable r'

/-- What is known of the filters of a registry. -/
structure WellFormed (r : Registry) : Prop where
  isName : ∀ f ∈ r.filters, isName f.queryName = true
  noKey : ∀ f ∈ r.filters, endsInKeySuffix f.queryName = false
  searched : ∀ f ∈ r.filters, f.freetext = true → f.operators.accepts .contains = true
  distinct : r.filters.Pairwise fun f g => f.queryName ≠ g.queryName

/-- What registration checks, and all that it does. -/
theorem register_eq_ok_iff {r r' : Registry} {f : Filter} :
    r.register f = .ok r' ↔
      (FilterQuery.isName f.queryName = true ∧ endsInKeySuffix f.queryName = false ∧
        (f.freetext = true → f.operators.accepts .contains = true) ∧
        (∀ g ∈ r.filters, g.name ≠ f.name) ∧ ∀ g ∈ r.filters, g.queryName ≠ f.queryName) ∧
      ⟨r.filters ++ [f]⟩ = r' := by
  unfold register filter? exactly?
  simp only [Bool.or_eq_true, Bool.not_eq_true', Bool.and_eq_true, List.find?_isSome, beq_iff_eq]
  split
  · rename_i h
    rcases h with h | h <;> simp [h]
  · rename_i hname
    simp only [not_or, Bool.not_eq_false, Bool.not_eq_true] at hname
    split
    · rename_i h
      simp [h]
    · rename_i hsearched
      split
      · rename_i h
        obtain ⟨g, hg, heq⟩ := h
        simp only [reduceCtorEq, false_iff, not_and]
        exact fun h => absurd heq (h.2.2.2.1 g hg)
      · rename_i hdistinct
        split
        · rename_i h
          obtain ⟨g, hg, heq⟩ := h
          simp only [reduceCtorEq, false_iff, not_and]
          exact fun h => absurd heq (h.2.2.2.2 g hg)
        · rename_i hquery
          simp only [Except.ok.injEq, iff_and_self]
          refine fun _ => ⟨hname.1, hname.2, fun hf => ?_, fun g hg heq => hdistinct ⟨g, hg, heq⟩,
            fun g hg heq => hquery ⟨g, hg, heq⟩⟩
          simpa [hf] using hsearched

/-- **All that registration checks is true of every filter** of a registry. -/
theorem Reachable.wellFormed {r : Registry} (h : r.Reachable) : r.WellFormed := by
  induction h with
  | empty =>
    have hnone : ∀ f, f ∉ Registry.empty.filters := fun _ => List.not_mem_nil
    exact ⟨fun f hf => absurd hf (hnone f), fun f hf => absurd hf (hnone f),
      fun f hf => absurd hf (hnone f), .nil⟩
  | @register r r' f _ hf ih =>
    obtain ⟨⟨hname, hkey, hsearched, -, hquery⟩, heq⟩ := register_eq_ok_iff.1 hf
    have hall : ∀ {p : Filter → Prop}, (∀ g ∈ r.filters, p g) → p f → ∀ g ∈ r'.filters, p g := by
      intro p hr hf g hg
      rw [← heq] at hg
      obtain hg | hg := List.mem_append.1 hg
      · exact hr g hg
      · exact List.mem_singleton.1 hg ▸ hf
    refine ⟨hall ih.isName hname, hall ih.noKey hkey, hall ih.searched hsearched, ?_⟩
    rw [← heq, List.pairwise_append]
    refine ⟨ih.distinct, List.pairwise_singleton _ _, fun g hg g' hg' => ?_⟩
    obtain rfl := List.mem_singleton.1 hg'
    exact hquery g hg

/-! ## Finding filters -/

/-- A name is resolved to the filter that it leads to. -/
theorem resolve_eq_ok_iff {r : Registry} {name : String} {f : Filter} :
    r.resolve name = .ok f ↔ r.get? name = some f := by
  unfold resolve
  cases r.get? name <;> simp

/-- **Each filter is found by its own name.** -/
theorem WellFormed.get?_queryName {r : Registry} (h : r.WellFormed) {f : Filter}
    (hf : f ∈ r.filters) : r.get? f.queryName = some f := by
  -- No filter before it has its name, so the search goes on until it finds it.
  obtain ⟨before, after, hsplit⟩ := List.append_of_mem hf
  have hbefore : ∀ g ∈ before, g.queryName ≠ f.queryName := by
    have := h.distinct
    rw [hsplit, List.pairwise_append] at this
    exact fun g hg => this.2.2 g hg f List.mem_cons_self
  have hexactly : r.exactly? f.queryName = some f := by
    rw [exactly?, List.find?_eq_some_iff_append]
    exact ⟨beq_self_eq_true _, before, after, hsplit, fun g hg => by simpa using hbefore g hg⟩
  rw [get?, hexactly, Option.some_or]

theorem WellFormed.resolve_queryName {r : Registry} (h : r.WellFormed) {f : Filter}
    (hf : f ∈ r.filters) : r.resolve f.queryName = .ok f :=
  resolve_eq_ok_iff.2 (h.get?_queryName hf)

/-- A text that does not begin like a name names no filter. -/
theorem WellFormed.exactly?_eq_none {r : Registry} (h : r.WellFormed) {text : String}
    (htext : ∀ c ∈ text.toList.head?, isNameStart c = false) : r.exactly? text = none := by
  rw [exactly?, List.find?_eq_none]
  intro f hf heq
  obtain rfl := beq_iff_eq.1 heq
  obtain ⟨c, s, hs, hc, -, -⟩ := isName_iff.1 (h.isName f hf)
  rw [htext c (by rw [hs]; rfl)] at hc
  exact absurd hc (by decide)

/-- **A number is not taken for the name of a filter**, in whatever script its digits are. -/
theorem WellFormed.get?_number {r : Registry} (h : r.WellFormed) {text : String}
    (htext : Number.IsNumberText text.toList) : r.get? text = none := by
  obtain ⟨c, s, hs, hc⟩ := htext.begins
  have hstart := Number.isNameStart_eq_false_of_beginsNumber hc
  -- Neither the text as it is nor its lower-case form begins like a name.
  have hexactly : r.exactly? text = none := by
    refine h.exactly?_eq_none fun x hx => ?_
    rw [hs] at hx
    obtain rfl : c = x := by simpa using hx
    exact hstart
  have hlowered : r.exactly? (Text.lowercase text) = none := by
    refine h.exactly?_eq_none (Text.isNameStart_of_head?_lowercase hs hstart ?_ ?_)
    · rintro rfl
      exact absurd hc (by decide +kernel)
    · rintro rfl
      exact absurd hc (by decide +kernel)
  rw [get?, hexactly, hlowered, Option.or_none]

end Registry

/-! ## Keys -/

/-- **The name of a filter is not taken for the key of another**, since it is in lower case. -/
theorem Registry.WellFormed.dropKeySuffix?_queryName {r : Registry} (h : r.WellFormed) {f : Filter}
    (hf : f ∈ r.filters) : dropKeySuffix? f.queryName = none := by
  unfold dropKeySuffix?
  dsimp only
  split
  · rename_i hsuffix
    simp only [Bool.and_eq_true, decide_eq_true_eq, beq_iff_eq] at hsuffix
    -- A suffix in any mixture of cases is one in small letters here, and those are refused.
    have hdrop := hsuffix.2
    rw [List.map_drop, f.queryName_lowered.map_toLower] at hdrop
    have hkey : keySuffix.isSuffixOf f.queryName.toList = true := by
      rw [List.isSuffixOf_iff_suffix, ← hdrop]
      exact List.drop_suffix _ _
    rw [show keySuffix.isSuffixOf f.queryName.toList = false from h.noKey f hf] at hkey
    exact absurd hkey (by decide)
  · rfl

/-- **The suffix for keys is taken off in every mixture of cases**, and what is left differs in the
case of letters only. -/
theorem Text.EqIgnoringCase.rel_dropKeySuffix? {s t : String} (h : Text.EqIgnoringCase s t) :
    Option.Rel Text.EqIgnoringCase (dropKeySuffix? s) (dropKeySuffix? t) := by
  have hsmall : s.toList.map Char.toLower = t.toList.map Char.toLower := h
  have hlength : s.toList.length = t.toList.length := by
    simpa using congrArg List.length hsmall
  -- The suffix is compared in small letters, and both texts have the same.
  unfold dropKeySuffix?
  dsimp only
  rw [List.map_drop, List.map_drop, hsmall, hlength]
  split
  · refine .some ?_
    rw [EqIgnoringCase, String.toList_ofList, String.toList_ofList, List.map_take, List.map_take,
      hsmall]
  · exact .none

theorem Text.EqIgnoringCase.dropKeySuffix?_eq_none {s t : String} (h : Text.EqIgnoringCase s t)
    (ht : dropKeySuffix? t = none) : dropKeySuffix? s = none := by
  have hrel := h.rel_dropKeySuffix?
  rw [ht] at hrel
  cases hs : dropKeySuffix? s with
  | none => rfl
  | some base => rw [hs] at hrel; cases hrel

/-- The suffix for keys is taken off again. -/
theorem dropKeySuffix?_append (name : String) : dropKeySuffix? (name ++ ".pk") = some name := by
  simp [dropKeySuffix?, keySuffix]

/-- With the suffix for keys a name can still be typed. -/
theorem isName_append_key {name : String} (h : isName name = true) :
    isName (name ++ ".pk") = true := by
  obtain ⟨c, r, hs, hc, hr, -⟩ := isName_iff.1 h
  have hlist : (name ++ ".pk").toList = c :: (r ++ ['.', 'p', 'k']) := by
    rw [String.toList_append, hs]
    rfl
  refine isName_iff.2 ⟨c, _, hlist, hc, ?_, ?_⟩
  · intro x hx
    obtain hx | hx := List.mem_append.1 hx
    · exact hr x hx
    · have hall : ['.', 'p', 'k'].all isNameChar = true := by decide
      exact List.all_eq_true.1 hall x hx
  · -- No reserved word is as long as that.
    rw [hlist, reservedWord?, List.find?_eq_none]
    intro word hword hspells
    have hlength := length_of_spells hspells
    have hshort : ∀ word ∈ reservedWords, word.length ≤ 3 := by decide
    have := hshort word hword
    simp only [List.length_cons, List.length_append, List.length_nil] at hlength
    omega

end FilterQuery
