/-
Predicates in normal form.

Whoever makes a search of a predicate goes by its shape: a group has at least two parts, no part asks
for nothing, and no part is a group of the kind of the group it is in. That is said here without
normalization (`IsCanonical`), and the two fit: a predicate is in normal form if and only if
normalizing leaves it alone, and whatever has been normalized is.

What keeps the form is that combining two predicates never nests a group in one of its own kind. A
predicate that is in normal form contributes to a group only what may stand in it, so the parts that
two of them contribute make a group that is in normal form again. Negating keeps the form, too.
Normalizing is made of these operations alone, and none of them loses a comparison or moves it past
another one.
-/
import FilterQuery.Proofs.Predicate.Leaves

set_option autoImplicit false

namespace FilterQuery

namespace Predicate

/-! ## The form -/

/-- `p.IsFlat`: the predicate and whatever is inside it asks for something, each group has at least
two parts, and none of these is a group of the same kind. -/
inductive IsFlat : Predicate → Prop
  | leaf (l : Lookup) : IsFlat (leaf l)
  | conj {parts : List Predicate} (htwo : 2 ≤ parts.length) (hparts : ∀ p ∈ parts, IsFlat p)
      (hkind : ∀ p ∈ parts, ∀ ps, p ≠ conj ps) : IsFlat (conj parts)
  | disj {parts : List Predicate} (htwo : 2 ≤ parts.length) (hparts : ∀ p ∈ parts, IsFlat p)
      (hkind : ∀ p ∈ parts, ∀ ps, p ≠ disj ps) : IsFlat (disj parts)
  | not {p : Predicate} (h : IsFlat p) : IsFlat (not p)

/-- `p.IsCanonical`: the predicate is in normal form. It may ask for nothing only as a whole. -/
def IsCanonical (p : Predicate) : Prop :=
  p = empty ∨ p.IsFlat

theorem IsFlat.ne_empty {p : Predicate} (h : p.IsFlat) : p ≠ empty := by
  rintro rfl
  nomatch h

theorem IsFlat.isCanonical {p : Predicate} (h : p.IsFlat) : p.IsCanonical :=
  .inr h

theorem isCanonical_empty : empty.IsCanonical :=
  .inl rfl

theorem isCanonical_leaf (l : Lookup) : (leaf l).IsCanonical :=
  .inr (.leaf l)

/-- A predicate that may stand in a group of the connective. -/
def IsPartOf (k : Connective) (p : Predicate) : Prop :=
  p.IsFlat ∧ ∀ ps, p ≠ k.group ps

/-- What makes a group flat is the same for both connectives. -/
theorem isFlat_group_iff (k : Connective) (ps : List Predicate) :
    (k.group ps).IsFlat ↔ 2 ≤ ps.length ∧ ∀ p ∈ ps, p.IsPartOf k := by
  cases k with
  | and =>
    constructor
    · rintro (_ | ⟨htwo, hparts, hkind⟩)
      exact ⟨htwo, fun p hp => ⟨hparts p hp, hkind p hp⟩⟩
    · rintro ⟨htwo, hps⟩
      exact .conj htwo (fun p hp => (hps p hp).1) fun p hp => (hps p hp).2
  | or =>
    constructor
    · rintro (_ | _ | ⟨htwo, hparts, hkind⟩)
      exact ⟨htwo, fun p hp => ⟨hparts p hp, hkind p hp⟩⟩
    · rintro ⟨htwo, hps⟩
      exact .disj htwo (fun p hp => (hps p hp).1) fun p hp => (hps p hp).2

/-- A part of a group contributes itself. -/
theorem IsPartOf.parts_eq {k : Connective} {p : Predicate} (h : p.IsPartOf k) :
    k.parts p = [p] := by
  obtain ⟨ps, hp⟩ | hp := k.eq_group_or_parts_eq p
  · exact absurd hp (h.2 ps)
  · exact hp

/-- **What a flat predicate contributes to a group may stand in it**, and it contributes
something. -/
theorem IsFlat.isPartOf_of_mem_parts {p : Predicate} (h : p.IsFlat) (k : Connective) :
    1 ≤ (k.parts p).length ∧ ∀ q ∈ k.parts p, q.IsPartOf k := by
  -- A group of the connective contributes its parts, and anything else itself.
  by_cases hgroup : ∃ ps, p = k.group ps
  · obtain ⟨ps, rfl⟩ := hgroup
    obtain ⟨htwo, hps⟩ := (isFlat_group_iff k ps).1 h
    rw [Connective.parts_group]
    exact ⟨by omega, hps⟩
  · have hpart : p.IsPartOf k := ⟨h, not_exists.1 hgroup⟩
    rw [hpart.parts_eq]
    exact ⟨Nat.le_refl 1, List.forall_mem_singleton.2 hpart⟩

/-! ## Operations that keep the form -/

/-- **Combining keeps the normal form.** -/
theorem IsCanonical.apply {p q : Predicate} (k : Connective) (hp : p.IsCanonical)
    (hq : q.IsCanonical) : (k.apply p q).IsCanonical := by
  obtain rfl | hp := hp
  · rw [Connective.apply_empty_left]
    exact hq
  obtain rfl | hq := hq
  · rw [Connective.apply_empty_right]
    exact hp.isCanonical
  -- Both contribute at least one part, so together they make a group of at least two.
  obtain ⟨hone, hparts⟩ := hp.isPartOf_of_mem_parts k
  obtain ⟨hone', hparts'⟩ := hq.isPartOf_of_mem_parts k
  rw [k.apply_of_ne_empty hp.ne_empty hq.ne_empty]
  refine .inr ((isFlat_group_iff k _).2 ⟨?_, List.forall_mem_append.2 ⟨hparts, hparts'⟩⟩)
  rw [List.length_append]
  omega

/-- So does combining any number of predicates. -/
theorem isCanonical_applyAll (k : Connective) {ps : List Predicate}
    (h : ∀ p ∈ ps, p.IsCanonical) : (k.applyAll ps).IsCanonical := by
  induction ps with
  | nil =>
    rw [Connective.applyAll_nil]
    exact isCanonical_empty
  | cons p ps ih =>
    rw [Connective.applyAll_cons]
    exact .apply k (h p List.mem_cons_self) (ih fun q hq => h q (List.mem_cons_of_mem p hq))

theorem IsCanonical.negate {p : Predicate} (h : p.IsCanonical) : p.negate.IsCanonical := by
  obtain rfl | h := h
  · exact isCanonical_empty
  · have hnot : p.negate = not p := by cases h <;> rfl
    rw [hnot]
    exact .inr (.not h)

theorem IsCanonical.negateIf {p : Predicate} (negated : Bool) (h : p.IsCanonical) :
    (p.negateIf negated).IsCanonical := by
  cases negated with
  | false => exact h
  | true => exact h.negate

/-! ## Normalization -/

/-- **What has been normalized is in normal form.** -/
theorem isCanonical_normalized (p : Predicate) : p.normalized.IsCanonical := by
  -- A group is made anew by combining its parts, of which the form is known.
  have hgroup : ∀ (k : Connective) (ps : List Predicate),
      (∀ q ∈ ps, q.normalized.IsCanonical) → (k.group ps).normalized.IsCanonical := by
    intro k ps hps
    rw [normalized_group]
    exact isCanonical_applyAll k (List.forall_mem_map.2 hps)
  match p with
  | empty =>
    rw [normalized]
    exact isCanonical_empty
  | leaf l =>
    rw [normalized]
    exact isCanonical_leaf l
  | conj ps => exact hgroup .and ps fun q _ => isCanonical_normalized q
  | disj ps => exact hgroup .or ps fun q _ => isCanonical_normalized q
  | not q =>
    rw [normalized]
    exact (isCanonical_normalized q).negate

/-- The parts of a group, combined, are the group again. -/
theorem applyAll_of_isPartOf (k : Connective) {ps : List Predicate} (htwo : 2 ≤ ps.length)
    (hps : ∀ p ∈ ps, p.IsPartOf k) : k.applyAll ps = k.group ps := by
  induction ps with
  | nil => simp at htwo
  | cons p ps ih =>
    have hp : p.IsPartOf k := hps p List.mem_cons_self
    have hrest : ∀ q ∈ ps, q.IsPartOf k := fun q hq => hps q (List.mem_cons_of_mem p hq)
    rw [Connective.applyAll_cons]
    by_cases hone : ps.length = 1
    · -- The last two are combined to a group of two.
      obtain ⟨q, rfl⟩ := List.length_eq_one_iff.1 hone
      have hq : q.IsPartOf k := hrest q List.mem_cons_self
      rw [Connective.applyAll_cons, Connective.applyAll_nil, Connective.apply_empty_right,
        k.apply_of_ne_empty hp.1.ne_empty hq.1.ne_empty, hp.parts_eq, hq.parts_eq]
      rfl
    · -- What precedes them is put in front of the group that there is.
      rw [ih (by simp only [List.length_cons] at htwo; omega) hrest,
        k.apply_of_ne_empty hp.1.ne_empty (k.group_ne_empty ps), hp.parts_eq,
        Connective.parts_group, List.singleton_append]

/-- Normalizing leaves a flat predicate alone. -/
theorem IsFlat.normalized_eq {p : Predicate} (h : p.IsFlat) : p.normalized = p := by
  -- By induction on the form: the parts stay as they are, and combined they are the group again.
  have hgroup : ∀ (k : Connective) (ps : List Predicate), 2 ≤ ps.length →
      (∀ q ∈ ps, q.IsPartOf k) → (∀ q ∈ ps, q.normalized = q) →
      (k.group ps).normalized = k.group ps := by
    intro k ps htwo hps heq
    rw [normalized_group, List.map_congr_left (g := id) heq, List.map_id]
    exact applyAll_of_isPartOf k htwo hps
  induction h with
  | leaf l => rw [normalized]
  | conj htwo hparts hkind ih =>
    exact hgroup .and _ htwo (fun q hq => ⟨hparts q hq, hkind q hq⟩) ih
  | disj htwo hparts hkind ih =>
    exact hgroup .or _ htwo (fun q hq => ⟨hparts q hq, hkind q hq⟩) ih
  | not h ih =>
    rw [normalized, ih]
    cases h <;> rfl

/-- **The predicates in normal form are those that normalizing leaves alone.** -/
theorem isCanonical_iff_normalized_eq (p : Predicate) : p.IsCanonical ↔ p.normalized = p := by
  constructor
  · rintro (rfl | h)
    · rw [normalized]
    · exact h.normalized_eq
  · intro h
    rw [← h]
    exact isCanonical_normalized p

/-- **Normalizing yields the normal form of a predicate**: whatever it is given, the result is in
normal form and compares the same things in the same order, and nothing changes where the form was
there already. -/
theorem normal_form_of_normalized (p : Predicate) :
    p.normalized.IsCanonical ∧ (p.normalized = p ↔ p.IsCanonical) ∧
      p.normalized.leaves = p.leaves :=
  ⟨isCanonical_normalized p, (isCanonical_iff_normalized_eq p).symm, leaves_normalized p⟩

end Predicate

end FilterQuery
