/-
What predicates mean.

A predicate is true or false of what is searched, by which of its comparisons hold there; or it asks
for nothing, and then it is neither. The third case is needed. What asks for nothing is left out of
every group, which a conjunction would allow if it were true of everything; a disjunction would not,
and then nothing could be said of the two in the same way. So a group means what those of its parts
mean that ask for something, and it asks for nothing if there are none.

Combining predicates and normalizing them keep the meaning, whichever comparisons hold and however
the predicates were built. None of these functions does more than regroup, so all that has to be seen
is that the rules of regrouping keep it (`Regroups.meaning_eq`), and there each rule is one law of
the connectives.
-/
import FilterQuery.Proofs.Predicate.Regrouping

set_option autoImplicit false

namespace FilterQuery

namespace Connective

variable (k : Connective)

/-! ## Groups of truth values -/

/-- What the connective makes of truth values: all of them, or any of them. -/
def truth : Connective → List Bool → Bool
  | and, bs => bs.all id
  | or, bs => bs.any id

/-- What a group of the connective means by the meanings of its parts. The parts that ask for nothing
do not count, and without any other part the group asks for nothing. -/
def meaning (ms : List (Option Bool)) : Option Bool :=
  match ms.filterMap id with
  | [] => none
  | b :: bs => some (k.truth (b :: bs))

theorem truth_singleton (b : Bool) : k.truth [b] = b := by
  cases k <;> simp [truth]

/-- Truth values that are next to each other may be taken together first. -/
theorem truth_nested (before inner after : List Bool) :
    k.truth (before ++ k.truth inner :: after) = k.truth (before ++ (inner ++ after)) := by
  cases k <;> simp [truth]

theorem meaning_of_ne_nil {ms : List (Option Bool)} (h : ms.filterMap id ≠ []) :
    k.meaning ms = some (k.truth (ms.filterMap id)) := by
  obtain ⟨b, bs, heq⟩ := List.exists_cons_of_ne_nil h
  rw [meaning, heq]

/-- The meaning of a group depends on the parts that ask for something. -/
theorem meaning_congr {ms ns : List (Option Bool)} (h : ms.filterMap id = ns.filterMap id) :
    k.meaning ms = k.meaning ns := by
  rw [meaning, meaning, h]

@[simp] theorem meaning_nil : k.meaning [] = none := rfl

@[simp] theorem meaning_singleton (m : Option Bool) : k.meaning [m] = m := by
  cases m with
  | none => rfl
  | some b => exact congrArg some (k.truth_singleton b)

/-- A part that asks for nothing may be left out, of a disjunction, too. -/
theorem meaning_none (before after : List (Option Bool)) :
    k.meaning (before ++ none :: after) = k.meaning (before ++ after) :=
  k.meaning_congr (by simp)

/-- **Groups in groups of their own kind mean what their parts mean there.** -/
theorem meaning_nested (before inner after : List (Option Bool)) :
    k.meaning (before ++ k.meaning inner :: after) = k.meaning (before ++ (inner ++ after)) := by
  by_cases hinner : inner.filterMap id = []
  · -- Inside nothing is asked for, so neither the group nor its parts count.
    have hnone : k.meaning inner = none := by rw [meaning, hinner]
    rw [hnone, meaning_none]
    refine k.meaning_congr ?_
    rw [List.filterMap_append, List.filterMap_append, List.filterMap_append, hinner,
      List.nil_append]
  · have hparts : (before ++ (inner ++ after)).filterMap id ≠ [] := by
      rw [List.filterMap_append, List.filterMap_append]
      refine List.append_ne_nil_of_right_ne_nil _ ?_
      exact List.append_ne_nil_of_left_ne_nil hinner _
    rw [k.meaning_of_ne_nil hinner, k.meaning_of_ne_nil (by simp), k.meaning_of_ne_nil hparts]
    simpa using k.truth_nested (before.filterMap id) (inner.filterMap id) (after.filterMap id)

end Connective

namespace Predicate

variable (holds : Lookup → Bool)

/-! ## Meanings -/

mutual

/-- Whether the predicate is true where just those comparisons hold of which this is said, or nothing
if it asks for nothing. -/
def meaning : Predicate → Option Bool
  | empty => none
  | leaf l => some (holds l)
  | conj parts => Connective.and.meaning (meaningEach parts)
  | disj parts => Connective.or.meaning (meaningEach parts)
  | not p => p.meaning.map (!·)

/-- What each of the predicates means. -/
def meaningEach : List Predicate → List (Option Bool)
  | [] => []
  | p :: ps => p.meaning :: meaningEach ps

end

theorem meaningEach_eq_map (ps : List Predicate) :
    meaningEach holds ps = ps.map (meaning holds) := by
  induction ps with
  | nil => rfl
  | cons p ps ih => rw [meaningEach, ih, List.map_cons]

theorem meaning_group (k : Connective) (ps : List Predicate) :
    (k.group ps).meaning holds = k.meaning (ps.map (meaning holds)) := by
  rw [← meaningEach_eq_map]
  cases k with
  | and => rw [Connective.group, meaning]
  | or => rw [Connective.group, meaning]

/-! ## What keeps the meaning -/

variable {holds} in
/-- **Regrouping keeps the meaning**, each of its rules by one law of the connectives. -/
theorem Regroups.meaning_eq {p q : Predicate} (h : Regroups p q) :
    p.meaning holds = q.meaning holds := by
  induction h with
  | refl p => rfl
  | symm _ ih => exact ih.symm
  | trans _ _ ihp ihq => exact ihp.trans ihq
  | part k before after _ ih =>
    rw [meaning_group, meaning_group, List.map_append, List.map_append, List.map_cons,
      List.map_cons, ih]
  | negated _ ih => rw [meaning, meaning, ih]
  | nested k before inner after =>
    rw [meaning_group, meaning_group, List.map_append, List.map_cons, meaning_group,
      Connective.meaning_nested, List.append_assoc, List.map_append, List.map_append]
  | single k p => rw [meaning_group, List.map_singleton, Connective.meaning_singleton]
  | noParts k =>
    rw [meaning_group, List.map_nil, Connective.meaning_nil, meaning]
  | emptyPart k before after =>
    rw [meaning_group, meaning_group, List.map_append, List.map_cons, meaning,
      Connective.meaning_none, List.map_append]
  | notEmpty =>
    rw [meaning, meaning]
    rfl

/-- **Combining, negating and normalizing keep the meaning.** Whichever comparisons hold, a predicate
means what it means when it is normalized; two predicates that are combined mean what the group of
the two means, and any number of them what their group means; and a predicate that is negated means
the negation. The predicates may have been built by hand, with groups of one part or without any, and
with parts that ask for nothing. -/
theorem meaning_kept :
    (∀ p : Predicate, p.normalized.meaning holds = p.meaning holds) ∧
    (∀ p q : Predicate, (p.and q).meaning holds = (conj [p, q]).meaning holds ∧
      (p.or q).meaning holds = (disj [p, q]).meaning holds) ∧
    (∀ p : Predicate, p.negate.meaning holds = (not p).meaning holds) ∧
    ∀ ps : List Predicate, (all ps).meaning holds = (conj ps).meaning holds ∧
      (any ps).meaning holds = (disj ps).meaning holds := by
  refine ⟨fun p => ?_, fun p q => ⟨?_, ?_⟩, fun p => ?_, fun ps => ⟨?_, ?_⟩⟩
  · exact (regroups_normalized p).symm.meaning_eq
  · exact (regroups_apply .and p q).symm.meaning_eq
  · exact (regroups_apply .or p q).symm.meaning_eq
  · exact (regroups_negate p).symm.meaning_eq
  · exact (regroups_applyAll .and ps).symm.meaning_eq
  · exact (regroups_applyAll .or ps).symm.meaning_eq

/-- If what asks for nothing were true of everything, this would be true where no comparison
holds. -/
example (a : Lookup) : (disj [empty, not empty, leaf a]).meaning (fun _ => false) = some false := by
  rfl

end Predicate

end FilterQuery
