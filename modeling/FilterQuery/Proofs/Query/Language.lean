/-
The language of queries.

The reader takes exactly the texts that spell a well-formed query, within its limits, and reads each
as the query that it spells. The grammar does not mention the reader, so this is what keeps a change
to the reader from changing the language. It also says that the grammar is unambiguous, which
nothing in the grammar itself shows.
-/
import FilterQuery.Proofs.Query.Soundness

set_option autoImplicit false

namespace FilterQuery

/-- **The reader accepts exactly the grammar.** A text is read as a query with at least one node iff
the query is well formed and the text spells it, and both are within the limits. -/
theorem Query.parseWithin_eq_ok_iff (limits : Limits) (text : String) {q : Query}
    (hq : q.nodes ≠ []) :
    Query.parseWithin limits text = .ok q ↔
      q.WellFormed ∧ q.Spelling text ∧ q.nesting ≤ limits.maxDepth ∧
        byteLength text.toList ≤ limits.maxLength := by
  constructor
  · intro h
    exact spelling_of_parseWithin h hq
  · rintro ⟨hwf, hspelling, hdepth, hlength⟩
    exact parseWithin_of_spelling hwf hspelling hdepth hlength

/-- A text with a lone backslash, and a connective that touches a quote and a parenthesis. -/
theorem Query.parseWithin_eq_ok_iff_mixed :
    let q : Query := ⟨[.statement (.comparison "a" .gte (.quoted "x\\y")), .connective .and,
      .group [.statement (.flag "b" true)]]⟩
    let text := "a=>\"x\\y\"aNd( !b)"
    q.nodes ≠ [] ∧ q.WellFormed ∧ q.Spelling text ∧ q.nesting ≤ 1 ∧
      byteLength text.toList ≤ 16 := by
  intro q text
  have hrun : (State.start "a=>\"x\\y\"aNd( !b)".toList).run ⟨1, 16⟩ = .ok q.nodes := by
    -- The first condition, `and`, the parenthesis, the condition inside and the end of the group.
    iterate 5 refine (State.run_of_step rfl).trans ?_
    exact State.run_of_done rfl
  have hread : Query.parseWithin ⟨1, 16⟩ text = .ok q :=
    parseWithin_of_run (by decide) hrun (by decide)
  exact ⟨List.cons_ne_nil _ _,
    (Query.parseWithin_eq_ok_iff ⟨1, 16⟩ text (List.cons_ne_nil _ _)).1 hread⟩

/-- No text spells two well-formed queries. -/
theorem Query.Spelling.unique {q q' : Query} {text : String} (hq : q.WellFormed)
    (hq' : q'.WellFormed) (h : q.Spelling text) (h' : q'.Spelling text) : q = q' := by
  let limits : Limits := ⟨max q.nesting q'.nesting, byteLength text.toList⟩
  have hread : Query.parseWithin limits text = .ok q :=
    parseWithin_of_spelling hq h (Nat.le_max_left _ _) (Nat.le_refl _)
  have hread' : Query.parseWithin limits text = .ok q' :=
    parseWithin_of_spelling hq' h' (Nat.le_max_right _ _) (Nat.le_refl _)
  exact Except.ok.inj (hread.symm.trans hread')

end FilterQuery
