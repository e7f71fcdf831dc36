/-
Whatever a text compiles to is in normal form.

Nobody normalizes what has been compiled, so whoever makes a search of it relies on its being in
normal form already. It is: the predicates of statements are single comparisons, or their opposites,
or nothing, or a disjunction of such; and from there on predicates are only ever combined, which
keeps the form in whatever order precedence and groups make it happen. A filter without an attribute
asks for nothing, and that disappears wherever it stands.

A rule that an application brings along may make larger predicates. All that is asked of it is that
these are in normal form themselves.
-/
import FilterQuery.Proofs.Compile.Reach
import FilterQuery.Proofs.Predicate.Canonical

set_option autoImplicit false

namespace FilterQuery

open Predicate (IsCanonical isCanonical_empty isCanonical_leaf isCanonical_applyAll)

/-! ## Filters -/

/-- The filter makes only predicates in normal form. -/
def Filter.MakesCanonical (f : Filter) : Prop :=
  ∀ op operand p, f.predicate? op operand = .ok (some p) → p.IsCanonical

/-- What an operator says of a path is a single comparison or its opposite. -/
theorem ResolvedOperator.isCanonical_predicate (meaning : ResolvedOperator) (path : String)
    (operand : Operand) : (meaning.predicate path operand).IsCanonical :=
  (isCanonical_leaf _).negateIf meaning.negated

namespace PredicateRule

variable {t : Filter.Traits} {op : Operator} {operand : Operand} {p : Predicate}

theorem isCanonical_of_compare (h : compare t op operand = .ok (some p)) : p.IsCanonical := by
  unfold compare at h
  split at h
  · obtain rfl := Option.some.inj (Except.ok.inj h)
    exact isCanonical_empty
  · obtain ⟨meaning, -, hp⟩ := exists_of_map_eq_ok h
    obtain rfl := Option.some.inj hp
    exact meaning.isCanonical_predicate _ _

theorem isCanonical_of_tristate (h : tristate t op operand = .ok (some p)) : p.IsCanonical := by
  unfold tristate at h
  split at h
  · obtain ⟨meaning, -, hp⟩ := exists_of_map_eq_ok h
    obtain rfl := Option.some.inj hp
    split
    · exact isCanonical_empty
    · exact (isCanonical_leaf _).negateIf meaning.negated
  · exact isCanonical_of_compare h

theorem isCanonical_of_reference {keys : String → List Int64}
    (h : reference keys t op operand = .ok (some p)) : p.IsCanonical := by
  unfold reference at h
  split at h
  · obtain rfl := Option.some.inj (Except.ok.inj h)
    exact isCanonical_empty
  · obtain ⟨meaning, -, hp⟩ := exists_of_bind_eq_ok h
    split at hp
    · split at hp
      · simp at hp
      · obtain rfl := Option.some.inj (Except.ok.inj hp)
        exact meaning.isCanonical_predicate _ _
      · simp at hp
    · obtain rfl := Option.some.inj (Except.ok.inj hp)
      exact meaning.isCanonical_predicate _ _

/-- **The rules of this library make only predicates in normal form.** -/
theorem IsUsual.makesCanonical {f : Filter} (h : f.rule.IsUsual) : f.MakesCanonical := by
  intro op operand p hp
  unfold Filter.predicate? at hp
  generalize f.rule = rule at h hp
  cases h with
  | compare => exact isCanonical_of_compare hp
  | tristate => exact isCanonical_of_tristate hp
  | reference keys => exact isCanonical_of_reference hp

end PredicateRule

/-! ## Statements -/

namespace Registry

/-- **Whatever can come of a statement is in normal form.** -/
theorem Makes.isCanonical {r : Registry} {p : Predicate} (hr : ∀ f ∈ r.filters, f.MakesCanonical)
    (h : r.Makes p) : p.IsCanonical := by
  cases h with
  | value hf h => exact hr _ hf _ _ _ h
  | field hf hg hpath h => exact hr _ hf _ _ _ h
  | key hf hattr k => exact isCanonical_leaf _
  | noValue hf hattr negated => exact (isCanonical_leaf _).negateIf negated
  | search h =>
    refine isCanonical_applyAll .or fun q hq => ?_
    obtain ⟨-, -, -, meaning, -, -, -, rfl⟩ := h q hq
    exact meaning.isCanonical_predicate _ _
  | nothing => exact isCanonical_empty

/-! ## Texts -/

/-- **Whatever a text compiles to is in normal form**, so that normalizing leaves it alone, as it
does with all predicates in normal form and with no others. It is enough that the filters make only
predicates in normal form, and all filters with a rule of this library do. -/
theorem normalized_of_compileWithin :
    (∀ f : Filter, f.rule.IsUsual → f.MakesCanonical) ∧
    (∀ p : Predicate, p.IsCanonical ↔ p.normalized = p) ∧
    ∀ r : Registry, (∀ f ∈ r.filters, f.MakesCanonical) →
      ∀ (limits : Limits) (text : String) (p : Predicate),
        r.compileWithin limits text = .ok p → p.IsCanonical ∧ p.normalized = p := by
  refine ⟨fun f => PredicateRule.IsUsual.makesCanonical, Predicate.isCanonical_iff_normalized_eq,
    fun r hr limits text p h => ?_⟩
  have hkept : KeptByCombining IsCanonical := fun k p q hp hq => hp.apply k hq
  have hstatement : ∀ s q, r.compileStatement s = .ok q → q.IsCanonical :=
    fun s q hq => (makes_of_compileStatement hq).isCanonical hr
  have hp : p.IsCanonical := of_compileWithin hkept hstatement isCanonical_empty h
  exact ⟨hp, (Predicate.isCanonical_iff_normalized_eq p).1 hp⟩

/-- A rule of an application's own makes conjunctions. One of them is in a disjunction whose other
part asks for nothing, so the group that it is in becomes a part of the conjunction around it. -/
theorem normalized_of_compileWithin_group :
    let span : PredicateRule := fun _ _ operand =>
      .ok (some (.conj [.compare "first" .lte operand, .compare "last" .gte operand]))
    let r : Registry := ⟨[{ Filter.integer "during" with rule := span },
      { Filter.text "ghost" with attr := none }, Filter.tristate "live"]⟩
    let p : Predicate := .conj [.compare "first" .lte (.value (.int 5)),
      .compare "last" .gte (.value (.int 5)), .compare "first" .lte (.value (.int 7)),
      .compare "last" .gte (.value (.int 7)), .not (.isNull "live")]
    (∀ f ∈ r.filters, f.MakesCanonical) ∧
      r.compileWithin {} "during=5 and (ghost=1 or during=7) and live!=\"\"" = .ok p ∧
      p.IsCanonical ∧ p.normalized = p := by
  intro span r p
  obtain ⟨husual, -, hcompiled⟩ := normalized_of_compileWithin
  have hr : ∀ f ∈ r.filters, f.MakesCanonical := by
    intro f hf
    simp only [r, List.mem_cons, List.not_mem_nil, or_false] at hf
    rcases hf with rfl | rfl | rfl
    · rintro op operand p ⟨⟩
      exact .inr (.conj (Nat.le_refl 2) (by simp [Predicate.compare, Predicate.IsFlat.leaf])
        (by simp [Predicate.compare]))
    · exact husual _ .compare
    · exact husual _ .tristate
  have hp : r.compileWithin {} "during=5 and (ghost=1 or during=7) and live!=\"\"" = .ok p := by
    have hread : Query.parseWithin {}
        (Text.trim "during=5 and (ghost=1 or during=7) and live!=\"\"") = .ok
        ⟨[.statement (.comparison "during" .eq (.bare "5")), .connective .and,
          .group [.statement (.comparison "ghost" .eq (.bare "1")), .connective .or,
            .statement (.comparison "during" .eq (.bare "7"))], .connective .and,
          .statement (.comparison "live" .notEq (.quoted ""))]⟩ :=
      eq_ok_of_toOption (by decide +kernel)
    rw [compileWithin_of_parseWithin hread (List.cons_ne_nil _ _)]
    rfl
  exact ⟨hr, hp, hcompiled r hr {} _ p hp⟩

end Registry

end FilterQuery
