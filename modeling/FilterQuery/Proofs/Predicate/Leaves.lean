/-
The comparisons in a predicate.

A predicate is a tree over comparisons, and its leaves are the list of these from left to right.
Combining predicates moves leaves into other groups but neither drops one nor adds one nor changes
their order: the leaves of what is combined are the leaves of the first and then those of the
second. Groups do not show in the list, so this holds of all trees, however they were built, and
normalizing, which combines the parts of each group anew, keeps the list as it is.
-/
import FilterQuery.Proofs.Predicate.Combining

set_option autoImplicit false

namespace FilterQuery

namespace Predicate

mutual

/-- The comparisons in a predicate, from left to right. -/
def leaves : Predicate → List Lookup
  | empty => []
  | leaf l => [l]
  | conj parts => leavesEach parts
  | disj parts => leavesEach parts
  | not p => p.leaves

/-- The comparisons in some predicates, one predicate after the other. -/
def leavesEach : List Predicate → List Lookup
  | [] => []
  | p :: ps => p.leaves ++ leavesEach ps

end

theorem leavesEach_append (ps qs : List Predicate) :
    leavesEach (ps ++ qs) = leavesEach ps ++ leavesEach qs := by
  induction ps with
  | nil => rfl
  | cons p ps ih => rw [List.cons_append, leavesEach, leavesEach, ih, List.append_assoc]

/-- The leaves of a group are those of its parts. -/
theorem leaves_group (k : Connective) (ps : List Predicate) :
    (k.group ps).leaves = leavesEach ps := by
  cases k with
  | and => rw [Connective.group, leaves]
  | or => rw [Connective.group, leaves]

/-- What a predicate contributes to a group are all its leaves. -/
theorem leavesEach_parts (k : Connective) (p : Predicate) :
    leavesEach (k.parts p) = p.leaves := by
  obtain ⟨ps, rfl⟩ | hp := k.eq_group_or_parts_eq p
  · rw [Connective.parts_group, leaves_group]
  · rw [hp, leavesEach, leavesEach, List.append_nil]

/-- **Combining two predicates keeps their leaves**, those of the first before those of the
second. -/
theorem leaves_apply (k : Connective) (p q : Predicate) :
    (k.apply p q).leaves = p.leaves ++ q.leaves := by
  by_cases hp : p = .empty
  · rw [hp, Connective.apply_empty_left, leaves, List.nil_append]
  by_cases hq : q = .empty
  · rw [hq, Connective.apply_empty_right, leaves, List.append_nil]
  rw [k.apply_of_ne_empty hp hq, leaves_group, leavesEach_append, leavesEach_parts,
    leavesEach_parts]

/-- So does combining any number of them. -/
theorem leaves_applyAll (k : Connective) (ps : List Predicate) :
    (k.applyAll ps).leaves = leavesEach ps := by
  induction ps with
  | nil => rw [Connective.applyAll_nil, leaves, leavesEach]
  | cons p ps ih => rw [Connective.applyAll_cons, leaves_apply, ih, leavesEach]

theorem leaves_negate (p : Predicate) : p.negate.leaves = p.leaves := by
  cases p <;> rfl

theorem leaves_negateIf (negated : Bool) (p : Predicate) :
    (p.negateIf negated).leaves = p.leaves := by
  cases negated with
  | false => rfl
  | true => exact leaves_negate p

/-- Leaves are kept by what keeps those of each predicate. -/
theorem leavesEach_map {f : Predicate → Predicate} {ps : List Predicate}
    (h : ∀ p ∈ ps, (f p).leaves = p.leaves) : leavesEach (ps.map f) = leavesEach ps := by
  induction ps with
  | nil => rw [List.map_nil]
  | cons p ps ih =>
    rw [List.map_cons, leavesEach, leavesEach, h p List.mem_cons_self,
      ih fun q hq => h q (List.mem_cons_of_mem p hq)]

/-- **Normalizing keeps the leaves**: groups are merged and dropped, and what is in them stays where
it is. -/
theorem leaves_normalized (p : Predicate) : p.normalized.leaves = p.leaves := by
  -- A group becomes what its normalized parts are combined to, which has the leaves of the parts.
  have hgroup : ∀ (k : Connective) (ps : List Predicate),
      (∀ q ∈ ps, q.normalized.leaves = q.leaves) →
      (k.group ps).normalized.leaves = (k.group ps).leaves := by
    intro k ps hps
    rw [normalized_group, leaves_applyAll, leaves_group]
    exact leavesEach_map hps
  match p with
  | empty => rw [normalized]
  | leaf l => rw [normalized]
  | conj ps => exact hgroup .and ps fun q _ => leaves_normalized q
  | disj ps => exact hgroup .or ps fun q _ => leaves_normalized q
  | not q =>
    rw [normalized, leaves_negate, leaves, leaves_normalized q]

theorem mem_leavesEach {l : Lookup} {ps : List Predicate} :
    l ∈ leavesEach ps ↔ ∃ p ∈ ps, l ∈ p.leaves := by
  induction ps with
  | nil => simp [leavesEach]
  | cons p ps ih => simp [leavesEach, ih]

end Predicate

end FilterQuery
