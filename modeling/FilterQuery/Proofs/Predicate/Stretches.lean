/-
Stretches of a sequence.

What a sequence comes to can be settled from left to right with two predicates in hand: what the
segments before the current one have come to, and what there is of the current one
(`Precedence.Progress`). Each element is taken in at once and none is looked at again.

So it can be said what a stretch of a sequence does to the whole. A stretch without `or` only adds to
the current segment, and what it adds there is what it comes to on its own, because combining is
associative. A stretch between two `or` is a segment or several on its own. In both cases the stretch
may stand for the predicate that it comes to, and the other way round.
-/
import FilterQuery.Proofs.Predicate.Combining

set_option autoImplicit false

namespace FilterQuery

namespace Precedence

/-! ## A sequence from left to right -/

/-- How far a sequence has come that is settled from left to right. -/
structure Progress where
  /-- What the segments before the current one have come to. -/
  settled : Predicate
  /-- What there is of the current one. -/
  segment : Predicate

namespace Progress

/-- Takes in one element. Only an `or` settles anything. -/
def take (x : Progress) : Item → Progress
  | .predicate p => { x with segment := x.segment.and p }
  | .connective .and => x
  | .connective .or => ⟨x.settled.or x.segment, .empty⟩

/-- What the sequence comes to if it ends here. -/
def result (x : Progress) : Predicate :=
  x.settled.or x.segment

theorem continued_eq_result (x : Progress) (items : List Item) :
    continued x.settled x.segment items = (items.foldl take x).result := by
  induction items generalizing x with
  | nil => rfl
  | cons item items ih =>
    rw [List.foldl_cons, ← ih]
    unfold continued
    -- The element is at the beginning of the first segment of the rest, or it cuts in front of it.
    have hne := List.splitOnP_ne_nil Item.isOr items
    obtain ⟨segment, segments, h⟩ := List.exists_cons_of_ne_nil hne
    rw [List.splitOnP_cons_eq_if_modifyHead, h]
    rcases item with p | (_ | _) <;> rfl

end Progress

/-- **A sequence may be settled from left to right.** -/
theorem bySegments_eq_result (items : List Item) :
    bySegments items = (items.foldl Progress.take ⟨.empty, .empty⟩).result := by
  rw [bySegments_eq_continued]
  exact Progress.continued_eq_result ⟨.empty, .empty⟩ items

/-! ## Stretches of a sequence -/

section Stretch

variable {ys : List Item} (hys : ∀ k, .connective k ∈ ys → k = .and)

include hys

/-- A stretch without `or` is taken in as if it were one predicate. -/
theorem Progress.foldl_take_stretch (x : Progress) :
    ys.foldl take x = x.take (.predicate (segmentPredicate ys)) := by
  induction ys generalizing x with
  | nil => exact congrArg (Progress.mk x.settled) x.segment.and_empty.symm
  | cons item items ih =>
    have hitems := ih fun k hk => hys k (List.mem_cons_of_mem item hk)
    rw [List.foldl_cons, hitems]
    cases item with
    | predicate p =>
      -- What is added first is combined with the rest first.
      have hassoc := Connective.and.apply_assoc x.segment p (segmentPredicate items)
      have hcons := Connective.and.applyAll_cons p (items.filterMap Item.predicate?)
      exact congrArg (Progress.mk x.settled) (hassoc.trans (congrArg x.segment.and hcons.symm))
    | connective k =>
      obtain rfl := hys k List.mem_cons_self
      rfl

/-- On its own it comes to all its predicates. -/
theorem bySegments_stretch : bySegments ys = segmentPredicate ys := by
  rw [bySegments_eq_result, Progress.foldl_take_stretch hys]
  rfl

/-- **A stretch without `or` may stand for what it comes to**, whatever is around it. -/
theorem bySegments_inline_and (xs zs : List Item) :
    bySegments (xs ++ .predicate (bySegments ys) :: zs) = bySegments (xs ++ (ys ++ zs)) := by
  rw [bySegments_stretch hys, bySegments_eq_result, bySegments_eq_result, List.foldl_append,
    List.foldl_append, List.foldl_append, List.foldl_cons, Progress.foldl_take_stretch hys]

end Stretch

/-- **What precedes an `or` and what follows it are settled apart.** -/
theorem bySegments_append_or (xs ys : List Item) :
    bySegments (xs ++ .connective .or :: ys) = (bySegments xs).or (bySegments ys) := by
  unfold bySegments
  rw [List.splitOnP_append_cons xs ys (by rfl), List.map_append]
  exact Connective.or.applyAll_append _ _

/-- A predicate that is alone is what its sequence comes to. -/
theorem bySegments_singleton (p : Predicate) : bySegments [.predicate p] = p := by
  rw [bySegments_eq_continued, continued_last]
  rfl

/-- **A stretch between two `or` may stand for what it comes to.** There may be nothing before or
behind it, too. -/
theorem bySegments_inline_or {xs zs : List Item} (ys : List Item)
    (hxs : xs = [] ∨ ∃ xs', xs = xs' ++ [.connective .or])
    (hzs : zs = [] ∨ ∃ zs', zs = .connective .or :: zs') :
    bySegments (xs ++ .predicate (bySegments ys) :: zs) = bySegments (xs ++ (ys ++ zs)) := by
  -- First without what is before the stretch: that is cut off at an `or`.
  have hrest : bySegments (.predicate (bySegments ys) :: zs) = bySegments (ys ++ zs) := by
    obtain rfl | ⟨zs', rfl⟩ := hzs
    · rw [List.append_nil, bySegments_singleton]
    · rw [← List.singleton_append, bySegments_append_or, bySegments_append_or, bySegments_singleton]
  obtain rfl | ⟨xs', rfl⟩ := hxs
  · exact hrest
  · rw [List.append_assoc, List.append_assoc, List.singleton_append, List.singleton_append,
      bySegments_append_or, bySegments_append_or, hrest]

end Precedence

end FilterQuery
