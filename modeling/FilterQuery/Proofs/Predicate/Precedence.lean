/-
What precedence makes of a sequence.

`Precedence.resolve?` reads a sequence twice: once to put it into reverse Polish order, with a stack
of connectives, and once to evaluate that order, with a stack of predicates. Here it is compared
with the rule that a reader of a query has in mind: cut the sequence at each `or`, join what is
between two cuts with `and`, then join the results with `or`.

The two passes are followed side by side. Only four pairs of stacks occur where a predicate is
expected (`Pending`), because a connective that waits is strictly weaker than the one above it; each
pair says what the segments before the current one have come to and what the current one has come to
so far. Taking in a predicate and a connective leads from one such pair to another, and
`evaluateFrom?_of_alternates` is the induction on the sequence that this makes. No law of `and` or
`or` is needed beyond what they do with the empty predicate, since both readings combine from left
to right.
-/
import FilterQuery.Predicate.Precedence

set_option autoImplicit false

namespace FilterQuery

/-! ## The rule -/

/-- Is the element the connective `or`? -/
def Item.isOr : Item → Bool
  | .connective .or => true
  | _ => false

/-- The predicate that the element is, if it is no connective. -/
def Item.predicate? : Item → Option Predicate
  | .predicate p => some p
  | .connective _ => none

/-- Predicates with one connective between any two neighbours, beginning and ending with a
predicate. -/
inductive Alternates : List Item → Prop
  | last (p : Predicate) : Alternates [.predicate p]
  | more {items : List Item} (p : Predicate) (k : Connective) (rest : Alternates items) :
      Alternates (.predicate p :: .connective k :: items)

namespace Precedence

/-- What the predicates of a stretch without `or` come to. -/
def segmentPredicate (segment : List Item) : Predicate :=
  .all (segment.filterMap Item.predicate?)

/-- What a sequence comes to by the rule: any of the stretches between two `or`, each of which asks
for all its predicates. -/
def bySegments (items : List Item) : Predicate :=
  .any ((items.splitOnP Item.isOr).map segmentPredicate)

/-! ## The rule in the middle of a sequence -/

/-- What a sequence comes to where `settled` is what the segments before it have come to, and
`segment` what there is already of the one that it continues. -/
def continued (settled segment : Predicate) (items : List Item) : Predicate :=
  let segments := items.splitOnP Item.isOr
  (segments.tail.map segmentPredicate).foldl .or
    (settled.or ((segments.headD []).filterMap Item.predicate? |>.foldl .and segment))

/-- At the beginning there is nothing to continue. -/
theorem bySegments_eq_continued (items : List Item) :
    bySegments items = continued .empty .empty items := by
  unfold bySegments continued
  cases h : items.splitOnP Item.isOr with
  | nil => exact absurd h (List.splitOnP_ne_nil _ _)
  | cons s ss => rfl

/-- A predicate at the end completes the last segment. -/
theorem continued_last (settled segment p : Predicate) :
    continued settled segment [.predicate p] = settled.or (segment.and p) := by
  simp [continued, List.splitOnP_cons_eq_if_modifyHead, Item.isOr, Item.predicate?]

/-- A predicate before an `and` becomes part of the segment. -/
theorem continued_and (settled segment p : Predicate) (items : List Item) :
    continued settled segment (.predicate p :: .connective .and :: items)
      = continued settled (segment.and p) items := by
  unfold continued
  simp only [List.splitOnP_cons_eq_if_modifyHead, Item.isOr, Bool.false_eq_true, if_false]
  cases h : items.splitOnP Item.isOr with
  | nil => exact absurd h (List.splitOnP_ne_nil _ _)
  | cons s ss => simp [List.filterMap_cons, Item.predicate?]

/-- A predicate before an `or` completes the segment, and another one begins. -/
theorem continued_or (settled segment p : Predicate) (items : List Item) :
    continued settled segment (.predicate p :: .connective .or :: items)
      = continued (settled.or (segment.and p)) .empty items := by
  unfold continued
  simp only [List.splitOnP_cons_eq_if_modifyHead, Item.isOr, Bool.false_eq_true, if_false, if_true]
  cases h : items.splitOnP Item.isOr with
  | nil => exact absurd h (List.splitOnP_ne_nil _ _)
  | cons s ss => simp [Item.predicate?, segmentPredicate, Predicate.all]

/-! ## The two stacks -/

/-- The connectives and the predicates that wait, last first, where a predicate is expected next:
`settled` is what the segments before the current one have come to, `segment` what there is of the
current one. Where there is nothing yet, nothing waits for it on the stacks. -/
inductive Pending : Predicate → Predicate → List Connective → List Predicate → Prop
  | start : Pending .empty .empty [] []
  | inFirst (segment : Predicate) : Pending .empty segment [.and] [segment]
  | afterOr (settled : Predicate) : Pending settled .empty [.or] [settled]
  | inLater (settled segment : Predicate) :
      Pending settled segment [.and, .or] [segment, settled]

/-- The last predicate: everything that waits is applied, and one predicate is left. -/
theorem evaluateFrom?_last {settled segment : Predicate} {ks : List Connective}
    {ps : List Predicate} (h : Pending settled segment ks ps) (p : Predicate) :
    evaluateFrom? ps (polishFrom ks [.predicate p]) = some (settled.or (segment.and p)) := by
  cases h <;> simp [polishFrom, evaluateFrom?, Connective.apply]

/-- **One step of both passes.** A predicate and a connective lead from pending stacks to pending
stacks, on which the rest of the sequence is evaluated. An `and` makes the segment longer; an `or`
settles it. -/
theorem evaluateFrom?_step {settled segment : Predicate} {ks : List Connective}
    {ps : List Predicate} (h : Pending settled segment ks ps) (p : Predicate) (k : Connective)
    (items : List Item) :
    ∃ settled' segment' ks' ps', Pending settled' segment' ks' ps' ∧
      evaluateFrom? ps (polishFrom ks (.predicate p :: .connective k :: items))
        = evaluateFrom? ps' (polishFrom ks' items) ∧
      continued settled segment (.predicate p :: .connective k :: items)
        = continued settled' segment' items := by
  cases k with
  | and =>
    -- Nothing that waits is stronger than `and`: an `and` that waits is applied, an `or` stays.
    rw [continued_and]
    cases h with
    | start => exact ⟨_, _, _, _, .inFirst p, rfl, rfl⟩
    | inFirst segment => exact ⟨_, _, _, _, .inFirst (segment.and p), rfl, rfl⟩
    | afterOr settled => exact ⟨_, _, _, _, .inLater settled p, rfl, rfl⟩
    | inLater settled segment => exact ⟨_, _, _, _, .inLater settled (segment.and p), rfl, rfl⟩
  | or =>
    -- Whatever waits is at least as strong as `or`, so all of it is applied.
    rw [continued_or]
    cases h with
    | start => exact ⟨_, _, _, _, .afterOr p, rfl, rfl⟩
    | inFirst segment => exact ⟨_, _, _, _, .afterOr (segment.and p), rfl, rfl⟩
    | afterOr settled => exact ⟨_, _, _, _, .afterOr (settled.or p), rfl, rfl⟩
    | inLater settled segment =>
      exact ⟨_, _, _, _, .afterOr (settled.or (segment.and p)), rfl, rfl⟩

/-- The two passes over what follows pending stacks find what the rule says. -/
theorem evaluateFrom?_of_alternates {items : List Item} (h : Alternates items) :
    ∀ {settled segment : Predicate} {ks : List Connective} {ps : List Predicate},
      Pending settled segment ks ps →
        evaluateFrom? ps (polishFrom ks items) = some (continued settled segment items) := by
  induction h with
  | last p =>
    intro settled segment ks ps hp
    rw [evaluateFrom?_last hp, continued_last]
  | more p k _ ih =>
    intro settled segment ks ps hp
    obtain ⟨_, _, _, _, hp', heval, hrule⟩ := evaluateFrom?_step hp p k _
    rw [heval, hrule]
    exact ih hp'

/-- A predicate that is alone needs no stack, and would come to the same with one. -/
theorem resolve?_eq_evaluateFrom? (items : List Item) :
    resolve? items = evaluateFrom? [] (toPolish items) := by
  unfold resolve?
  split
  · rfl
  · rfl

/-- **Precedence is cutting at `or`.** Whatever the predicates are, a sequence in which they
alternate with connectives has a predicate: the disjunction, from left to right, of the
conjunctions, from left to right, of what stands between two `or`. -/
theorem resolve?_eq_bySegments {items : List Item} (h : Alternates items) :
    resolve? items = some (bySegments items) := by
  rw [resolve?_eq_evaluateFrom?, toPolish, bySegments_eq_continued]
  exact evaluateFrom?_of_alternates h .start

/-- Neither a predicate that asks for nothing nor a conjunction built by hand stays in the way. -/
theorem resolve?_eq_bySegments_mixed :
    Alternates
        [.predicate .empty, .connective .and, .predicate (.isNull "a"), .connective .or,
          .predicate (.conj [.isNull "b"]), .connective .and, .predicate (.isNull "c")] ∧
      resolve?
          [.predicate .empty, .connective .and, .predicate (.isNull "a"), .connective .or,
            .predicate (.conj [.isNull "b"]), .connective .and, .predicate (.isNull "c")]
        = some (.disj [.isNull "a", .conj [.isNull "b", .isNull "c"]]) := by
  have h : Alternates
      [.predicate .empty, .connective .and, .predicate (.isNull "a"), .connective .or,
        .predicate (.conj [.isNull "b"]), .connective .and, .predicate (.isNull "c")] :=
    .more _ _ (.more _ _ (.more _ _ (.last _)))
  exact ⟨h, (resolve?_eq_bySegments h).trans rfl⟩

/-! ## One connective throughout -/

/-- Predicates with the same connective between any two neighbours. -/
def joined (k : Connective) : List Predicate → List Item
  | [] => []
  | [p] => [.predicate p]
  | p :: ps => .predicate p :: .connective k :: joined k ps

theorem joined_cons_cons (k : Connective) (p q : Predicate) (ps : List Predicate) :
    joined k (p :: q :: ps) = .predicate p :: .connective k :: joined k (q :: ps) :=
  rfl

theorem alternates_joined (k : Connective) (p : Predicate) (ps : List Predicate) :
    Alternates (joined k (p :: ps)) := by
  induction ps generalizing p with
  | nil => exact .last p
  | cons q ps ih => exact .more p k (ih q)

/-- All of them make the segment longer. -/
theorem continued_joined_and (settled segment p : Predicate) (ps : List Predicate) :
    continued settled segment (joined .and (p :: ps))
      = settled.or ((p :: ps).foldl .and segment) := by
  induction ps generalizing segment p with
  | nil => exact continued_last settled segment p
  | cons q ps ih =>
    rw [joined_cons_cons, continued_and, ih]
    rfl

/-- Each of them is a segment. -/
theorem continued_joined_or (settled p : Predicate) (ps : List Predicate) :
    continued settled .empty (joined .or (p :: ps)) = (p :: ps).foldl .or settled := by
  induction ps generalizing settled p with
  | nil => rw [joined, continued_last, Predicate.empty_and, List.foldl_cons, List.foldl_nil]
  | cons q ps ih =>
    rw [joined_cons_cons, continued_or, ih, Predicate.empty_and]
    rfl

end Precedence

/-- Combines any number of predicates. -/
def Connective.applyAll : Connective → List Predicate → Predicate
  | and, ps => .all ps
  | or, ps => .any ps

/-- **With one connective throughout, precedence does not matter.** -/
theorem Precedence.resolve?_joined (k : Connective) {ps : List Predicate} (hps : ps ≠ []) :
    resolve? (joined k ps) = some (k.applyAll ps) := by
  obtain ⟨p, ps, rfl⟩ := List.exists_cons_of_ne_nil hps
  rw [resolve?_eq_evaluateFrom?, toPolish,
    evaluateFrom?_of_alternates (alternates_joined k p ps) .start]
  cases k with
  | and => rw [continued_joined_and, Predicate.empty_or, Connective.applyAll, Predicate.all]
  | or => rw [continued_joined_or, Connective.applyAll, Predicate.any]

end FilterQuery
