/-
Compiling a text always has an outcome.

What combines a sequence by precedence can only combine one of the right shape, and gives up on any
other. A text is never the reason: what is read of it has the right shape at every level, and a text
that is trimmed and not empty is no blank text, so there is something to combine. Nor is it ever cut
where it cannot be cut. What remains is the filters, which an application may bring along; as long
as they do not break down themselves, every text compiles to a predicate or to an error that says
what is wrong with it.

`QueryError.unbalancedNodes` is what giving up looks like, so that is the outcome to be excluded.
-/
import FilterQuery.Filter.Kinds
import FilterQuery.Proofs.Query.Joined
import FilterQuery.Proofs.Query.Offsets
import FilterQuery.Proofs.Query.Shape
import FilterQuery.Proofs.Registry
import FilterQuery.Proofs.Text.Parts

set_option autoImplicit false

namespace FilterQuery

/-! ## Outcomes -/

/-- The result is a value, or an error that says what is wrong. -/
def HasOutcome {α : Type} (x : Except QueryError α) : Prop :=
  x ≠ .error .unbalancedNodes

section Outcomes

variable {α β : Type} {x : Except QueryError α}

theorem hasOutcome_ok (a : α) : HasOutcome (.ok a) := nofun

theorem HasOutcome.bind {f : α → Except QueryError β} (hx : HasOutcome x)
    (hf : ∀ a, x = .ok a → HasOutcome (f a)) : HasOutcome (x.bind f) := by
  cases x with
  | error e => exact fun h => hx (by rw [Except.error.inj h])
  | ok a => exact hf a rfl

theorem HasOutcome.map {f : α → β} (hx : HasOutcome x) : HasOutcome (x.map f) := by
  cases x with
  | error e => exact fun h => hx (by rw [Except.error.inj h])
  | ok a => exact hasOutcome_ok (f a)

theorem HasOutcome.mapM {f : α → Except QueryError β} {xs : List α}
    (hf : ∀ x ∈ xs, HasOutcome (f x)) : HasOutcome (xs.mapM f) := by
  induction xs with
  | nil => exact hasOutcome_ok []
  | cons x xs ih =>
    rw [List.mapM_cons]
    refine (hf x List.mem_cons_self).bind fun y _ => ?_
    exact (ih fun z hz => hf z (List.mem_cons_of_mem x hz)).bind fun ys _ => hasOutcome_ok _

end Outcomes

/-! ## Filters -/

namespace Filter

/-- Making predicates with the filter always has an outcome. -/
def IsTotal (f : Filter) : Prop :=
  ∀ op operand, HasOutcome (f.predicate? op operand)

theorem Traits.hasOutcome_resolve (t : Traits) (op : Operator) : HasOutcome (t.resolve op) := by
  unfold Traits.resolve
  split <;> exact nofun

end Filter

namespace PredicateRule

theorem hasOutcome_compare (t : Filter.Traits) (op : Operator) (operand : Operand) :
    HasOutcome (compare t op operand) := by
  unfold compare
  split
  · exact hasOutcome_ok _
  · exact (t.hasOutcome_resolve op).map

theorem hasOutcome_tristate (t : Filter.Traits) (op : Operator) (operand : Operand) :
    HasOutcome (tristate t op operand) := by
  unfold tristate
  split
  · exact (t.hasOutcome_resolve op).map
  · exact hasOutcome_compare t op operand

theorem hasOutcome_reference (keys : String → List Int64) (t : Filter.Traits)
    (op : Operator) (operand : Operand) : HasOutcome (reference keys t op operand) := by
  unfold reference
  split
  · exact hasOutcome_ok _
  · refine (t.hasOutcome_resolve op).bind fun meaning _ => ?_
    split
    · split <;> exact nofun
    · exact hasOutcome_ok _

end PredicateRule

namespace Filter

variable {f : Filter}

/-- **The filters of the usual kinds always have an outcome**, whatever has been changed about them
but their rule. -/
theorem isTotal_of_rule (h : f.rule = .compare ∨ f.rule = .tristate ∨
    ∃ keys, f.rule = .reference keys) : f.IsTotal := by
  intro op operand
  unfold predicate?
  obtain h | h | ⟨keys, h⟩ := h
  · rw [h]
    exact PredicateRule.hasOutcome_compare f.toTraits op operand
  · rw [h]
    exact PredicateRule.hasOutcome_tristate f.toTraits op operand
  · rw [h]
    exact PredicateRule.hasOutcome_reference keys f.toTraits op operand

theorem IsTotal.demand (hf : f.IsTotal) (op : Operator) (operand : Operand) (text : String) :
    HasOutcome (f.demand op operand text) := by
  refine (hf op operand).bind fun p _ => ?_
  cases p <;> exact nofun

theorem hasOutcome_compileKey (f : Filter) (op : Operator) (v : Literal) :
    HasOutcome (f.compileKey op v) := by
  unfold compileKey
  split
  · exact nofun
  · split <;> exact nofun

theorem hasOutcome_compileNull (f : Filter) (op : Operator) : HasOutcome (f.compileNull op) := by
  unfold compileNull
  cases op <;> exact nofun

theorem IsTotal.compileField (hf : f.IsTotal) (op : Operator) (path text : String) :
    HasOutcome (f.compileField op path text) :=
  (f.hasOutcome_resolve op).bind fun _ _ => hf.demand op _ text

theorem IsTotal.compileValue (hf : f.IsTotal) (op : Operator) (text : String) :
    HasOutcome (f.compileValue op text) := by
  unfold Filter.compileValue
  split
  · exact nofun
  · exact (f.hasOutcome_resolve op).bind fun _ _ => hf.demand op _ text

end Filter

namespace Registry

variable {r : Registry}

/-! ## Statements -/

theorem hasOutcome_resolve (r : Registry) (name : String) : HasOutcome (r.resolve name) := by
  unfold resolve
  split <;> exact nofun

/-- A filter that is found by name is one of the filters. -/
theorem mem_of_get? {name : String} {f : Filter} (h : r.get? name = some f) : f ∈ r.filters := by
  obtain h | ⟨-, h⟩ := Option.or_eq_some_iff.1 h
  · exact List.mem_of_find?_eq_some h
  · exact List.mem_of_find?_eq_some h

theorem mem_of_resolve {name : String} {f : Filter} (h : r.resolve name = .ok f) :
    f ∈ r.filters :=
  mem_of_get? (resolve_eq_ok_iff.1 h)

theorem hasOutcome_compileFreetext (r : Registry) (text : String) :
    HasOutcome (r.compileFreetext text) := by
  have hpart (f : Filter) : HasOutcome (freetextPart text f) := by
    unfold freetextPart
    split
    · exact hasOutcome_ok none
    · exact (f.hasOutcome_resolve .contains).map
  unfold compileFreetext
  split
  · exact nofun
  · exact (HasOutcome.mapM fun f _ => hpart f).map

section Total

variable (hr : ∀ f ∈ r.filters, f.IsTotal)

include hr

theorem hasOutcome_compileLiteral {f : Filter} (hf : f ∈ r.filters) (op : Operator) (v : Literal) :
    HasOutcome (r.compileLiteral f op v) := by
  unfold compileLiteral
  split
  · exact (hr f hf).compileField op _ _
  · split
    · exact f.hasOutcome_compileNull op
    · exact (hr f hf).compileValue op _

theorem hasOutcome_compileComparison (name : String) (op : Operator) (v : Literal) :
    HasOutcome (r.compileComparison name op v) := by
  unfold compileComparison
  split
  · exact (r.hasOutcome_resolve _).bind fun f _ => f.hasOutcome_compileKey op v
  · exact (r.hasOutcome_resolve _).bind fun f hf =>
      hasOutcome_compileLiteral hr (mem_of_resolve hf) op v

theorem hasOutcome_compileFlag (name : String) (negated : Bool) :
    HasOutcome (r.compileFlag name negated) := by
  refine (r.hasOutcome_resolve _).bind fun f hf => ?_
  split
  · exact (hr f (mem_of_resolve hf)).demand _ _ _
  · exact nofun

/-- **Compiling a statement has an outcome**, if making predicates with the filters has. -/
theorem hasOutcome_compileStatement (s : Statement) : HasOutcome (r.compileStatement s) := by
  cases s with
  | comparison name op v => exact hasOutcome_compileComparison hr name op v
  | flag name negated => exact hasOutcome_compileFlag hr name negated
  | freetext text => exact r.hasOutcome_compileFreetext text

end Total

/-! ## Nodes -/

/-- **What an expression compiles to alternates**, as combining by precedence needs it. -/
theorem alternates_of_compileEach {ns : List Node} {items : List Item} (h : IsExpression ns)
    (hitems : r.compileEach ns = .ok items) : Alternates items := by
  have hcondition {n : Node} {item : Item} (hn : IsCondition n)
      (hitem : r.compileNode n = .ok item) : ∃ p, item = .predicate p := by
    cases hn with
    | statement _ =>
      obtain ⟨p, -, hp⟩ := exists_of_map_eq_ok hitem
      exact ⟨p, hp.symm⟩
    | group _ =>
      obtain ⟨p, -, hp⟩ := exists_of_map_eq_ok hitem
      exact ⟨p, hp.symm⟩
  induction h using IsExpression.induction generalizing items with
  | one hn =>
    obtain ⟨item, hitem, hrest⟩ := exists_of_bind_eq_ok hitems
    obtain ⟨p, rfl⟩ := hcondition hn hitem
    cases hrest
    exact .last p
  | join k hn hs ih =>
    obtain ⟨item, hitem, hrest⟩ := exists_of_bind_eq_ok hitems
    obtain ⟨p, rfl⟩ := hcondition hn hitem
    obtain ⟨after, hafter, rfl⟩ := exists_of_map_eq_ok hrest
    obtain ⟨joint, hjoint, hlater⟩ := exists_of_bind_eq_ok hafter
    obtain rfl := Except.ok.inj hjoint
    obtain ⟨more, hmore, rfl⟩ := exists_of_map_eq_ok hlater
    exact .more p k (ih hmore)

/-- What alternates is combined by the rule. -/
theorem combine_of_alternates {items : List Item} (h : Alternates items) :
    combine items = .ok (Precedence.bySegments items) := by
  unfold combine
  rw [Precedence.resolve?_eq_evaluateFrom?, Precedence.toPolish,
    Precedence.evaluateFrom?_of_alternates h .start, ← Precedence.bySegments_eq_continued]

/-- An expression comes to what the rule makes of its items. -/
theorem compileNodes_of_compileEach {ns : List Node} {items : List Item} (h : IsExpression ns)
    (hitems : r.compileEach ns = .ok items) :
    r.compileNodes ns = .ok (Precedence.bySegments items) := by
  rw [compileNodes, hitems]
  exact combine_of_alternates (alternates_of_compileEach h hitems)

theorem hasOutcome_combine {items : List Item} (h : Alternates items) :
    HasOutcome (combine items) := by
  rw [combine_of_alternates h]
  exact hasOutcome_ok _

mutual

/-- Compiling a condition has an outcome. -/
theorem hasOutcome_compileNode (hr : ∀ f ∈ r.filters, f.IsTotal) {n : Node} (hn : IsCondition n) :
    HasOutcome (r.compileNode n) := by
  match hn with
  | .statement (s := s) _ => exact (hasOutcome_compileStatement hr s).map
  | .group h =>
    rw [compileNode]
    exact ((hasOutcome_compileEach hr h).bind fun items hitems =>
      hasOutcome_combine (alternates_of_compileEach h hitems)).map

/-- So has compiling an expression. -/
theorem hasOutcome_compileEach (hr : ∀ f ∈ r.filters, f.IsTotal) {ns : List Node}
    (h : IsExpression ns) : HasOutcome (r.compileEach ns) := by
  match h with
  | .one hn =>
    rw [compileEach]
    exact (hasOutcome_compileNode hr hn).bind fun item _ => (hasOutcome_ok []).map
  | .join k hn hs =>
    rw [compileEach, compileEach]
    refine (hasOutcome_compileNode hr hn).bind fun item _ => HasOutcome.map ?_
    exact (hasOutcome_ok _).bind fun item _ => (hasOutcome_compileEach hr hs).map

end

/-! ## Texts -/

/-- A text that is trimmed and not empty has something to read in it. -/
theorem not_isBlankText_trim {text : String} (h : (Text.trim text).isEmpty = false) :
    ¬ IsBlankText (Text.trim text).toList := by
  rw [Text.trim, String.toList_ofList]
  have hne : Text.trimChars text.toList ≠ [] := by
    intro hnil
    rw [Text.trim, hnil] at h
    exact absurd h (by decide)
  obtain ⟨c, r, heq, hc⟩ := (Text.isTrimmed_trimChars hne).begins
  intro hblank
  rw [hblank c (heq ▸ List.mem_cons_self)] at hc
  exact absurd hc (by decide)

/-- **Compiling a text has an outcome**, within any limits. -/
theorem hasOutcome_compileWithin (hr : ∀ f ∈ r.filters, f.IsTotal) (limits : Limits)
    (text : String) : HasOutcome (r.compileWithin limits text) := by
  unfold compileWithin
  dsimp only
  split
  · exact hasOutcome_ok _
  · rename_i hempty
    split
    · exact nofun
    · rename_i q hq
      obtain ⟨-, hblank⟩ | ⟨hnodes, -⟩ := isExpression_of_parseWithin hq
      · -- Nothing has been read only of a blank text, and this one is trimmed and not empty.
        exact absurd hblank (not_isBlankText_trim (Bool.eq_false_iff.2 hempty))
      · exact (hasOutcome_compileEach hr hnodes).bind fun items hitems =>
          hasOutcome_combine (alternates_of_compileEach hnodes hitems)

/-- **No text makes reading or compiling it break down.**

What is read has the shape that combining by precedence needs: conditions and connectives take
turns, and so they do in every group; there is nothing to combine only if the text is blank. Reading
by offsets cuts no text where it cannot be cut, neither in front of a connective nor at the suffix
for keys, and finds what reading finds. So compiling a text gives a predicate or an error that says
what is wrong, whatever the filters are, as long as they do not break down themselves. -/
theorem never_breaks_down :
    (∀ (limits : Limits) (text : String) (q : Query), Query.parseWithin limits text = .ok q →
      (q.nodes = [] ↔ IsBlankText text.toList) ∧ (q.nodes ≠ [] → Alternating q.nodes) ∧
        ∀ inner, HasGroup q.nodes inner → Alternating inner) ∧
    (∀ (limits : Limits) (text : String),
      Cursor.parseWithin limits text = (Query.parseWithin limits text).mapError .fault) ∧
    (∀ name : String, Cursor.dropKeySuffix name = .ok (dropKeySuffix? name)) ∧
    ∀ r : Registry, (∀ f ∈ r.filters, f.IsTotal) → ∀ (limits : Limits) (text : String),
      r.compileWithin limits text ≠ .error .unbalancedNodes := by
  refine ⟨fun limits text q hq => ?_, Cursor.parseWithin_eq, Cursor.dropKeySuffix_eq,
    fun r hr limits text => hasOutcome_compileWithin hr limits text⟩
  exact alternating_of_parseWithin hq

/-- A value with characters of two bytes, and a key in a group. -/
theorem never_breaks_down_group :
    let text := "title=gr\u00f6\u00dfe and (artist.PK=7)"
    let inner := [Node.statement (.comparison "artist.PK" .eq (.bare "7"))]
    let q : Query :=
      ⟨[.statement (.comparison "title" .eq (.bare "gr\u00f6\u00dfe")), .connective .and,
        .group inner]⟩
    let r : Registry := ⟨[Filter.text "title", Filter.reference "artist" fun _ => []]⟩
    (Query.parseWithin {} text = .ok q ∧ Alternating q.nodes ∧ Alternating inner) ∧
      Cursor.parseWithin {} text = .ok q ∧
      Cursor.dropKeySuffix "artist.PK" = .ok (some "artist") ∧
      (∀ f ∈ r.filters, f.IsTotal) ∧ r.compileWithin {} text ≠ .error .unbalancedNodes := by
  intro text inner q r
  have hword : (Literal.bare "gr\u00f6\u00dfe").WellFormed :=
    ⟨by decide, List.all_eq_true.1 (by decide +kernel), by decide +kernel⟩
  have hdigit : (Literal.bare "7").WellFormed :=
    ⟨by decide, List.all_eq_true.1 (by decide +kernel), by decide⟩
  have htitle := writesCondition_comparison 1 (show isName "title" = true by decide) .eq hword
  have hkey := writesCondition_comparison 0 (show isName "artist.PK" = true by decide) .eq hdigit
  have hparse : Query.parseWithin {} text = .ok q :=
    (htitle.join (k := .and) (w := "and".toList) (by decide)
      (show " and ".toList = _ from rfl) hkey.expression.group.expression).parseWithin
      (by decide) (by decide +kernel)
  have hr : ∀ f ∈ r.filters, f.IsTotal := by
    intro f hf
    simp only [r, List.mem_cons, List.not_mem_nil, or_false] at hf
    obtain rfl | rfl := hf
    · exact Filter.isTotal_of_rule (.inl rfl)
    · exact Filter.isTotal_of_rule (.inr (.inr ⟨fun _ => [], rfl⟩))
  obtain ⟨hshape, hcursor, hsuffix, hcompile⟩ := never_breaks_down
  obtain ⟨-, hnodes, hgroups⟩ := hshape {} text q hparse
  refine ⟨⟨hparse, hnodes (List.cons_ne_nil _ _), hgroups inner (.here ?_)⟩, ?_, ?_, hr,
    hcompile r hr {} text⟩
  · simp [q]
  · rw [hcursor, hparse]
    rfl
  · rw [hsuffix]
    rfl

end Registry

end FilterQuery
