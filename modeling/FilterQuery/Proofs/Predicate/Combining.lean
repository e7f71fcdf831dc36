/-
The laws of combining predicates.

A conjunction and a disjunction are made in the same way, so everything here is said of a connective
and holds of both. What keeps the tree flat also makes the laws exact: the parts of a group that is
made of two predicates are the parts that the two contribute, one list after the other, and lists
are appended in any grouping. So combining is associative as an equation between trees, whatever the
predicates are and whether or not they were built by hand, and the predicate that asks for nothing
is neutral on both sides.
-/
import FilterQuery.Proofs.Predicate.Precedence

set_option autoImplicit false

namespace FilterQuery

namespace Connective

variable (k : Connective)

/-! ## Groups -/

/-- The group of a connective with these parts. -/
def group : Connective → List Predicate → Predicate
  | and, ps => .conj ps
  | or, ps => .disj ps

/-- What a predicate contributes to a group of the connective. -/
def parts : Connective → Predicate → List Predicate
  | and, p => p.conjuncts
  | or, p => p.disjuncts

@[simp] theorem parts_group (ps : List Predicate) : k.parts (k.group ps) = ps := by
  cases k <;> rfl

theorem group_ne_empty (ps : List Predicate) : k.group ps ≠ .empty := by
  cases k <;> nofun

/-- A predicate is a group of the connective, or it is a part of one as it stands. -/
theorem eq_group_or_parts_eq (p : Predicate) : (∃ ps, p = k.group ps) ∨ k.parts p = [p] := by
  cases k with
  | and =>
    cases p with
    | conj ps => exact .inl ⟨ps, rfl⟩
    | empty | leaf | disj | not => exact .inr rfl
  | or =>
    cases p with
    | disj ps => exact .inl ⟨ps, rfl⟩
    | empty | leaf | conj | not => exact .inr rfl

/-! ## Two predicates -/

@[simp] theorem apply_empty_left (p : Predicate) : k.apply .empty p = p := by
  cases k <;> rfl

@[simp] theorem apply_empty_right (p : Predicate) : k.apply p .empty = p := by
  cases k with
  | and => exact p.and_empty
  | or => exact p.or_empty

/-- Two predicates that ask for something make a group of all that they contribute. -/
theorem apply_of_ne_empty {p q : Predicate} (hp : p ≠ .empty) (hq : q ≠ .empty) :
    k.apply p q = k.group (k.parts p ++ k.parts q) := by
  cases k <;> cases p <;> cases q <;> first | rfl | exact absurd rfl hp | exact absurd rfl hq

/-- **Combining is associative**, as an equation between trees. -/
theorem apply_assoc (p q r : Predicate) :
    k.apply (k.apply p q) r = k.apply p (k.apply q r) := by
  by_cases hp : p = .empty
  · rw [hp, apply_empty_left, apply_empty_left]
  by_cases hq : q = .empty
  · rw [hq, apply_empty_right, apply_empty_left]
  by_cases hr : r = .empty
  · rw [hr, apply_empty_right, apply_empty_right]
  -- Three predicates that ask for something: both sides are the group of all their parts.
  have hleft : k.apply p q = k.group (k.parts p ++ k.parts q) := k.apply_of_ne_empty hp hq
  have hright : k.apply q r = k.group (k.parts q ++ k.parts r) := k.apply_of_ne_empty hq hr
  rw [hleft, hright, k.apply_of_ne_empty (k.group_ne_empty _) hr,
    k.apply_of_ne_empty hp (k.group_ne_empty _), parts_group, parts_group, List.append_assoc]

/-! ## Any number of predicates -/

theorem applyAll_eq_foldl (ps : List Predicate) : k.applyAll ps = ps.foldl k.apply .empty := by
  cases k <;> rfl

@[simp] theorem applyAll_nil : k.applyAll [] = .empty := by
  cases k <;> rfl

/-- What there is already comes first, and what is added is combined on its own. -/
theorem foldl_apply (p : Predicate) (ps : List Predicate) :
    ps.foldl k.apply p = k.apply p (k.applyAll ps) := by
  rw [applyAll_eq_foldl]
  induction ps generalizing p with
  | nil => exact (k.apply_empty_right p).symm
  | cons q ps ih =>
    rw [List.foldl_cons, List.foldl_cons, ih, apply_empty_left, ih q, apply_assoc]

theorem applyAll_cons (p : Predicate) (ps : List Predicate) :
    k.applyAll (p :: ps) = k.apply p (k.applyAll ps) := by
  rw [applyAll_eq_foldl, List.foldl_cons, apply_empty_left, foldl_apply]

/-- **Lists are combined one after the other.** -/
theorem applyAll_append (ps qs : List Predicate) :
    k.applyAll (ps ++ qs) = k.apply (k.applyAll ps) (k.applyAll qs) := by
  rw [applyAll_eq_foldl, List.foldl_append, ← applyAll_eq_foldl, foldl_apply]

/-- So it does not matter whether they are first combined list by list. -/
theorem applyAll_flatten (pss : List (List Predicate)) :
    k.applyAll pss.flatten = k.applyAll (pss.map k.applyAll) := by
  induction pss with
  | nil => rw [List.flatten_nil, List.map_nil]
  | cons ps pss ih =>
    rw [List.flatten_cons, applyAll_append, ih, List.map_cons, applyAll_cons]

end Connective

namespace Predicate

/-- **Predicates are a monoid under each of the two ways to combine them**: combining three gives
the same tree in either grouping, a predicate that asks for nothing changes nothing on either side,
and lists of predicates may be combined each on its own first. -/
theorem monoid_laws :
    (∀ p q r : Predicate, (p.and q).and r = p.and (q.and r) ∧ (p.or q).or r = p.or (q.or r)) ∧
      (∀ p : Predicate, empty.and p = p ∧ p.and empty = p ∧ empty.or p = p ∧ p.or empty = p) ∧
      ∀ pss : List (List Predicate),
        all pss.flatten = all (pss.map all) ∧ any pss.flatten = any (pss.map any) := by
  refine ⟨fun p q r => ?_, fun p => ?_, fun pss => ?_⟩
  · exact ⟨Connective.and.apply_assoc p q r, Connective.or.apply_assoc p q r⟩
  · exact ⟨Connective.and.apply_empty_left p, Connective.and.apply_empty_right p,
      Connective.or.apply_empty_left p, Connective.or.apply_empty_right p⟩
  · exact ⟨Connective.and.applyAll_flatten pss, Connective.or.applyAll_flatten pss⟩

end Predicate

/-! ## Normal forms -/

namespace Predicate

theorem normalizedEach_eq_map (ps : List Predicate) : normalizedEach ps = ps.map normalized := by
  induction ps with
  | nil => rfl
  | cons p ps ih => rw [normalizedEach, ih, List.map_cons]

/-- A group is normalized by combining the normal forms of its parts. -/
theorem normalized_group (k : Connective) (ps : List Predicate) :
    (k.group ps).normalized = k.applyAll (ps.map normalized) := by
  rw [← normalizedEach_eq_map]
  cases k with
  | and => rw [Connective.group, normalized, Connective.applyAll]
  | or => rw [Connective.group, normalized, Connective.applyAll]

end Predicate

end FilterQuery
