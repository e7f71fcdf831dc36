/-
The shape of what is read as a query.

Whoever goes through the nodes of a query counts on their shape: conditions stand at the even places
and connectives at the odd ones, there is one condition more than there are connectives, and so it
is in every group, however deep. This is laid down here by places and lengths and without the
grammar, and shown of everything that is read. The one exception is a text of nothing but blanks,
which is read as no nodes at all, and no other text is.
-/
import FilterQuery.Proofs.Query.Soundness

set_option autoImplicit false

namespace FilterQuery

/-- Is the node a connective? -/
def Node.isConnective : Node → Bool
  | .connective _ => true
  | _ => false

/-- An odd number of nodes, with a connective at every odd place and nowhere else. -/
structure Alternating (ns : List Node) : Prop where
  odd : ns.length % 2 = 1
  isConnective_iff : ∀ (i : Nat) (h : i < ns.length), ns[i].isConnective = true ↔ i % 2 = 1

/-- `HasGroup ns inner`: the nodes `inner` are in parentheses, at some depth among the nodes
`ns`. -/
inductive HasGroup : List Node → List Node → Prop
  | here {ns inner : List Node} (h : .group inner ∈ ns) : HasGroup ns inner
  | deeper {ns outer inner : List Node} (h : .group outer ∈ ns) (hinner : HasGroup outer inner) :
      HasGroup ns inner

/-! ## Expressions -/

theorem IsCondition.isConnective {n : Node} (h : IsCondition n) : n.isConnective = false := by
  cases h <;> rfl

/-- What holds of every condition by itself, and of whatever has a condition and a connective in
front of something that it holds of, holds of every expression. What is in the groups is left
alone. -/
@[elab_as_elim]
theorem IsExpression.induction {motive : (ns : List Node) → IsExpression ns → Prop}
    (one : ∀ {n : Node} (hn : IsCondition n), motive [n] (.one hn))
    (join : ∀ {n : Node} {ns : List Node} (k : Connective) (hn : IsCondition n)
      (hs : IsExpression ns), motive ns hs → motive (n :: .connective k :: ns) (.join k hn hs))
    {ns : List Node} (h : IsExpression ns) : motive ns h :=
  @IsExpression.rec (fun _ _ => True) motive (fun _ => trivial) (fun _ _ => trivial)
    (fun hn _ => one hn) (fun k hn hs _ ih => join k hn hs ih) ns h

/-- **In an expression, conditions and connectives take turns.** -/
theorem IsExpression.alternating {ns : List Node} (h : IsExpression ns) : Alternating ns := by
  induction h using IsExpression.induction with
  | one hn =>
    refine ⟨rfl, fun i hi => ?_⟩
    obtain rfl : i = 0 := by simpa using hi
    simp [hn.isConnective]
  | join k hn hs ih =>
    obtain ⟨hodd, hplaces⟩ := ih
    refine ⟨by simp only [List.length_cons]; omega, fun i hi => ?_⟩
    -- The rest begins two places further on, so at places of the same parity.
    rcases i with _ | _ | i
    · simp [hn.isConnective]
    · simp [Node.isConnective]
    · simp only [List.length_cons] at hi
      rw [List.getElem_cons_succ, List.getElem_cons_succ, hplaces i (by omega)]
      omega

/-- In the parentheses of a group there is an expression. -/
theorem IsExpression.of_mem_group {ns inner : List Node} (h : IsExpression ns)
    (hinner : .group inner ∈ ns) : IsExpression inner := by
  have hcondition {n : Node} (hn : IsCondition n) (heq : .group inner = n) :
      IsExpression inner := by
    subst heq
    cases hn with
    | group h => exact h
  induction h using IsExpression.induction with
  | one hn => exact hcondition hn (List.mem_singleton.1 hinner)
  | join k hn hs ih =>
    simp only [List.mem_cons, reduceCtorEq, false_or] at hinner
    obtain heq | hinner := hinner
    · exact hcondition hn heq
    · exact ih hinner

/-- So there is at every depth. -/
theorem IsExpression.of_hasGroup {ns inner : List Node} (h : IsExpression ns)
    (hinner : HasGroup ns inner) : IsExpression inner := by
  induction hinner with
  | here hmem => exact h.of_mem_group hmem
  | deeper hmem _ ih => exact ih (h.of_mem_group hmem)

/-! ## Queries -/

/-- What is read is an expression, or nothing, and that only of a blank text. -/
theorem isExpression_of_parseWithin {limits : Limits} {text : String} {q : Query}
    (h : Query.parseWithin limits text = .ok q) :
    (q.nodes = [] ∧ IsBlankText text.toList) ∨
      (IsExpression q.nodes ∧ ¬ IsBlankText text.toList) := by
  unfold Query.parseWithin at h
  dsimp only at h
  split at h
  · simp at h
  · unfold readNodes at h
    split at h
    · rename_i nodes hnodes
      obtain rfl := Except.ok.inj h
      split at hnodes
      · rename_i hblank
        refine .inl ⟨(Except.ok.inj hnodes).symm, ?_⟩
        exact isBlankText_of_skipBlanks (List.isEmpty_iff.1 hblank)
      · rename_i hblank
        refine .inr ⟨((State.isSound_start limits text.toList).run hnodes).1, fun htext => ?_⟩
        exact hblank (List.isEmpty_iff.2 (skipBlanks_eq_nil htext))
    · simp at h

/-- **A query that is read has the shape that is counted on**: it is empty if and only if the text
is blank, and otherwise conditions and connectives take turns, in every group too. -/
theorem alternating_of_parseWithin {limits : Limits} {text : String} {q : Query}
    (h : Query.parseWithin limits text = .ok q) :
    (q.nodes = [] ↔ IsBlankText text.toList) ∧ (q.nodes ≠ [] → Alternating q.nodes) ∧
      ∀ inner, HasGroup q.nodes inner → Alternating inner := by
  obtain ⟨hnodes, hblank⟩ | ⟨hnodes, hblank⟩ := isExpression_of_parseWithin h
  · refine ⟨⟨fun _ => hblank, fun _ => hnodes⟩, fun hne => absurd hnodes hne, ?_⟩
    rw [hnodes]
    rintro inner (hmem | ⟨hmem, -⟩) <;> exact absurd hmem List.not_mem_nil
  · have hne := hnodes.ne_nil
    exact ⟨⟨fun h => absurd h hne, fun h => absurd h hblank⟩, fun _ => hnodes.alternating,
      fun inner hinner => (hnodes.of_hasGroup hinner).alternating⟩

end FilterQuery
