/-
Texts that are made of the texts of conditions.

Whoever writes a query out of conditions that it knows writes them one after the other, with one
connective throughout, and puts some of them in parentheses. Here is what the reader makes of that:
the same conditions with that connective in between, and a group for the parentheses. Each text goes
with one list of nodes, so what is read is known exactly and not only up to what it compiles to.
-/
import FilterQuery.Proofs.Query.Printing

set_option autoImplicit false

namespace FilterQuery

/-- `text` writes the condition `n`, whose groups are at most `depth` deep. -/
structure WritesCondition (depth : Nat) (text : String) (n : Node) : Prop where
  isCondition : IsCondition n
  nesting : n.nesting ≤ depth
  writes : WritesAlone n.tokens text.toList

/-- `text` writes the nodes `ns` of a query, whose groups are at most `depth` deep. -/
structure WritesExpression (depth : Nat) (text : String) (ns : List Node) : Prop where
  isExpression : IsExpression ns
  nesting : Node.nestingEach ns ≤ depth
  writes : WritesAlone (Node.tokensEach ns) text.toList

variable {depth : Nat} {text : String}

/-- A comparison is written without any blank. -/
theorem writesCondition_comparison (depth : Nat) {name : String} (hname : isName name = true)
    (op : Operator) {v : Literal} (hv : v.WellFormed) :
    WritesCondition depth (name ++ op.symbol ++ v.render)
      (.statement (.comparison name op v)) where
  isCondition := .statement ⟨hname, hv⟩
  nesting := by
    rw [Node.nesting]
    exact Nat.zero_le depth
  writes := by
    rw [Node.tokens]
    exact Statement.writesAlone_render (.comparison name op v)

/-- Blanks around the text of a query do not matter. -/
theorem WritesExpression.pad {ns : List Node} {padded : String} {blanks blanks' : List Char}
    (h : WritesExpression depth text ns) (hb : IsBlankText blanks) (hb' : IsBlankText blanks')
    (hpadded : padded.toList = blanks ++ (text.toList ++ blanks')) :
    WritesExpression depth padded ns where
  isExpression := h.isExpression
  nesting := h.nesting
  writes := by
    rw [hpadded]
    exact h.writes.pad hb hb'

/-- A condition is a query on its own. -/
theorem WritesCondition.expression {n : Node} (h : WritesCondition depth text n) :
    WritesExpression depth text [n] where
  isExpression := .one h.isCondition
  nesting := by
    have := h.nesting
    simp only [Node.nestingEach]
    omega
  writes := by
    have hwrites := h.writes
    rwa [Node.tokensEach, Node.tokensEach, List.append_nil]

/-- In parentheses the nodes of a query are a condition. -/
theorem WritesExpression.group {ns : List Node} (h : WritesExpression depth text ns) :
    WritesCondition (depth + 1) ("(" ++ text ++ ")") (.group ns) where
  isCondition := .group h.isExpression
  nesting := by
    rw [Node.nesting]
    exact Nat.succ_le_succ h.nesting
  writes := by
    rw [Node.tokens, String.toList_append, String.toList_append]
    exact h.writes.group

/-- A condition, a connective in any of its spellings with a blank on either side, and the nodes of
a query. -/
theorem WritesCondition.join {n : Node} {ns : List Node} {rest : String} {k : Connective}
    {separator : String} {w : List Char} (h : WritesCondition depth text n)
    (hw : spells k.word w = true) (hseparator : separator.toList = ' ' :: (w ++ [' ']))
    (hrest : WritesExpression depth rest ns) :
    WritesExpression depth (text ++ separator ++ rest) (n :: .connective k :: ns) where
  isExpression := .join k h.isCondition hrest.isExpression
  nesting := by
    have hn := h.nesting
    have hns := hrest.nesting
    simp only [Node.nestingEach, Node.nesting]
    omega
  writes := by
    have htext : (text ++ separator ++ rest).toList
        = text.toList ++ ' ' :: (w ++ ' ' :: rest.toList) := by
      rw [String.toList_append, String.toList_append, hseparator]
      simp
    rw [htext]
    exact h.writes.join hw hrest.writes

/-- **Two queries with a connective between them are one query.** The connective may be in any of its
spellings, with at least one blank on either side. -/
theorem WritesExpression.append {ns ms : List Node} {rest separator : String} {k : Connective}
    {blanks w blanks' : List Char} (h : WritesExpression depth text ns)
    (hw : spells k.word w = true) (hb : IsBlankText blanks) (hb' : IsBlankText blanks')
    (hseparator : separator.toList = blanks ++ ' ' :: (w ++ ' ' :: blanks'))
    (hrest : WritesExpression depth rest ms) :
    WritesExpression depth (text ++ separator ++ rest) (ns ++ .connective k :: ms) where
  isExpression := h.isExpression.append k hrest.isExpression
  nesting := by
    have hns := h.nesting
    have hms := hrest.nesting
    rw [nestingEach_append, Node.nestingEach, Node.nesting]
    omega
  writes := by
    have htext : (text ++ separator ++ rest).toList
        = (text.toList ++ blanks) ++ ' ' :: (w ++ ' ' :: (blanks' ++ rest.toList)) := by
      rw [String.toList_append, String.toList_append, hseparator]
      simp
    have hbefore := h.writes.pad isBlankText_nil hb
    have hafter := hrest.writes.pad hb' isBlankText_nil
    rw [List.nil_append] at hbefore
    rw [List.append_nil] at hafter
    rw [htext, tokensEach_append, Node.tokensEach, Node.tokens]
    exact hbefore.join hw hafter

/-- **Conditions with the same connective between any two neighbours are read as they were
written.** The connective may be in any of its spellings. -/
theorem writesExpression_intersperse {α : Type} (k : Connective) (separator : String)
    (w : List Char) (hw : spells k.word w = true)
    (hseparator : separator.toList = ' ' :: (w ++ [' '])) {text : α → String} {node : α → Node}
    {x : α} {xs : List α} (h : ∀ y ∈ x :: xs, WritesCondition depth (text y) (node y)) :
    WritesExpression depth (separator.intercalate ((x :: xs).map text))
      (((x :: xs).map node).intersperse (.connective k)) := by
  induction xs generalizing x with
  | nil =>
    have hx := h x List.mem_cons_self
    rw [List.map_singleton, List.map_singleton, String.intercalate_singleton,
      List.intersperse_singleton]
    exact hx.expression
  | cons y xs ih =>
    have hx := h x List.mem_cons_self
    have hxs := ih fun z hz => h z (List.mem_cons_of_mem x hz)
    rw [List.map_cons, List.map_cons, List.map_cons, List.map_cons,
      String.intercalate_cons_cons, List.intersperse_cons_cons]
    exact hx.join hw hseparator hxs

/-- **The nodes of a query are read from what is written for them**, within limits that leave room
for it. -/
theorem WritesExpression.parseWithin {ns : List Node} (h : WritesExpression depth text ns)
    {limits : Limits} (hdepth : depth ≤ limits.maxDepth)
    (hlength : byteLength text.toList ≤ limits.maxLength) :
    Query.parseWithin limits text = .ok ⟨ns⟩ :=
  parseWithin_of_spelling h.isExpression h.writes.layout (Nat.le_trans h.nesting hdepth) hlength

end FilterQuery
