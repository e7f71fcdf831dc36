/-
Names of filters, as they are checked and as they are read.

A filter is registered under a name that a check on the characters of a text admits; the reader of
queries goes about names in another way, by taking as many characters as can be part of one and
looking at what follows. Here the two are compared. A statement reads back from its own text exactly
if it is well formed, and all that a flag needs for it is its name, as does a comparison with a
fixed value. So every text that passes the check is read as the name that it is, alone and before
any operator, and no text that fails it is ever read so.
-/
import FilterQuery.Proofs.Query.Printing
import FilterQuery.Proofs.Text.Bytes
import Mathlib.Tactic.TFAE

set_option autoImplicit false

namespace FilterQuery

variable (limits : Limits)

/-- **A statement reads back from its text exactly if it is well formed**, and its text is within
the limits. -/
theorem Statement.parseWithin_render_iff (s : Statement) :
    Query.parseWithin limits s.render = .ok ⟨[.statement s]⟩ ↔
      s.WellFormed ∧ byteLength s.render.toList ≤ limits.maxLength := by
  have hrender : Query.render ⟨[.statement s]⟩ = s.render := by
    simp [Query.render, Node.renderEach, Node.render]
  constructor
  · intro h
    obtain ⟨hwf, -, -, hlength⟩ := spelling_of_parseWithin h (List.cons_ne_nil _ _)
    cases hwf with
    | one hcondition =>
      cases hcondition with
      | statement hs => exact ⟨hs, hlength⟩
  · rintro ⟨hs, hlength⟩
    rw [← hrender] at hlength ⊢
    exact parseWithin_of_wellFormed (.inr (.one (.statement hs))) (Nat.zero_le _) hlength

/-- **The check on names agrees with the grammar.** A text passes it exactly if it is read as a flag
of that name; exactly if with any operator and a value behind it, it is read as a comparison of that
name; and then with every operator. -/
theorem isName_tfae_parseWithin (t : String)
    (hlength : ∀ op : Operator, byteLength (t ++ op.symbol ++ "x").toList ≤ limits.maxLength) :
    List.TFAE [
      isName t = true,
      Query.parseWithin limits t = .ok ⟨[.statement (.flag t false)]⟩,
      ∀ op : Operator, Query.parseWithin limits (t ++ op.symbol ++ "x")
        = .ok ⟨[.statement (.comparison t op (.bare "x"))]⟩,
      ∃ op : Operator, Query.parseWithin limits (t ++ op.symbol ++ "x")
        = .ok ⟨[.statement (.comparison t op (.bare "x"))]⟩] := by
  have hflag : Query.parseWithin limits t = .ok ⟨[.statement (.flag t false)]⟩ ↔
      isName t = true := by
    have hread := Statement.parseWithin_render_iff limits (.flag t false)
    have hrender : (Statement.flag t false).render = t := String.empty_append
    have hshorter : byteLength t.toList ≤ limits.maxLength := by
      refine Nat.le_trans ?_ (hlength .eq)
      rw [String.append_assoc, String.toList_append, byteLength_append]
      exact Nat.le_add_right _ _
    rw [hrender] at hread
    exact hread.trans (and_iff_left hshorter)
  have hcomparison (op : Operator) :
      Query.parseWithin limits (t ++ op.symbol ++ "x")
          = .ok ⟨[.statement (.comparison t op (.bare "x"))]⟩ ↔ isName t = true := by
    have hread := Statement.parseWithin_render_iff limits (.comparison t op (.bare "x"))
    have hvalue : (Literal.bare "x").WellFormed :=
      ⟨by decide, List.all_eq_true.1 (by decide +kernel), by decide⟩
    exact (hread.trans (and_iff_left (hlength op))).trans (and_iff_left hvalue)
  tfae_have 1 ↔ 2 := hflag.symm
  tfae_have 1 → 3 := fun h op => (hcomparison op).2 h
  tfae_have 3 → 4 := fun h => ⟨.eq, h .eq⟩
  tfae_have 4 → 1 := fun ⟨op, h⟩ => (hcomparison op).1 h
  tfae_finish

/-- A name may begin with a reserved word, but not be one. -/
theorem isName_tfae_parseWithin_reserved :
    let limits : Limits := ⟨0, 8⟩
    (∀ op : Operator, byteLength ("or-1$" ++ op.symbol ++ "x").toList ≤ limits.maxLength) ∧
      Query.parseWithin limits "or-1$" = .ok ⟨[.statement (.flag "or-1$" false)]⟩ ∧
      (∀ op : Operator, Query.parseWithin limits ("or-1$" ++ op.symbol ++ "x")
        = .ok ⟨[.statement (.comparison "or-1$" op (.bare "x"))]⟩) ∧
    (∀ op : Operator, byteLength ("Or" ++ op.symbol ++ "x").toList ≤ limits.maxLength) ∧
      Query.parseWithin limits "Or" ≠ .ok ⟨[.statement (.flag "Or" false)]⟩ ∧
      ∀ op : Operator, Query.parseWithin limits ("Or" ++ op.symbol ++ "x")
        ≠ .ok ⟨[.statement (.comparison "Or" op (.bare "x"))]⟩ := by
  intro limits
  have hname : isName "or-1$" = true := by decide
  have hreserved : isName "Or" ≠ true := by decide
  have hlength (op : Operator) :
      byteLength ("or-1$" ++ op.symbol ++ "x").toList ≤ limits.maxLength := by
    cases op <;> decide
  have hlength' (op : Operator) :
      byteLength ("Or" ++ op.symbol ++ "x").toList ≤ limits.maxLength := by
    cases op <;> decide
  have hread := isName_tfae_parseWithin limits "or-1$" hlength
  have hread' := isName_tfae_parseWithin limits "Or" hlength'
  have hflag' := hread'.out 0 1
  have hcomparison' := hread'.out 0 3
  exact ⟨hlength, (hread.out 0 1).1 hname, (hread.out 0 2).1 hname,
    hlength', fun h => hreserved (hflag'.2 h), fun op h => hreserved (hcomparison'.2 ⟨op, h⟩)⟩

end FilterQuery
