/-
What a value is taken for that is written into a query.

A value that is written into a query is read again as a literal, and a literal that is typed without
quotes need not be taken for a value: it may name a filter, or be the word for the missing value.
Text is safe from that in its quotes, and numbers are by how they begin, as no name does. But two
doubles are no numbers, and they are written as words. Nothing keeps a filter from having such a word
as its name in queries, and then the filter is meant and not the double.

That happens to no other value, whatever filters there are (`literal_taken_iff`): a value is taken
for a filter if and only if it is one of these two doubles and the filter has its word as its name.
The infinity below all numbers is not among them, since it has a sign in front of its word. The
missing value is never meant.
-/
import FilterQuery.Proofs.Bound.Query
import FilterQuery.Proofs.Compile.Addressed

set_option autoImplicit false

namespace FilterQuery

/-! ## Words -/

/-- The word for a value that is written as a word, in small letters. -/
def Value.word? : Value → Option String
  | float x =>
    match Number.DoubleKind.ofBits x.toBits.toNat with
    | .notANumber => some "nan"
    | .infinite false => some "inf"
    | _ => none
  | _ => none

/-- What a value is written as: a literal that only ever means a value, or its word in some mixture
of cases. -/
inductive Value.WrittenAs (v : Value) : Literal → Prop
  | plain {l : Literal} (hl : l.IsPlain) (hword : v.word? = none) : WrittenAs v l
  | word {text : String} (hword : v.word? = some (Text.lowercase text)) : WrittenAs v (.bare text)

/-- A double is written as a number, unless it is one of the two that have words. -/
theorem writtenAs_showDouble (x : Float) :
    (Value.float x).WrittenAs (.bare (Number.showDouble x)) := by
  cases hkind : Number.DoubleKind.ofBits x.toBits.toNat with
  | notANumber =>
    have hshow : Number.showDouble x = "NaN" := by
      rw [Number.showDouble, hkind]
      rfl
    have hlower : Text.lowercase "NaN" = "nan" := by decide +kernel
    rw [hshow]
    exact .word (by simp only [Value.word?, hkind, hlower])
  | infinite negative =>
    have hshow : Number.showDouble x
        = String.ofList (Number.withSign negative ['i', 'n', 'f']) := by
      rw [Number.showDouble, hkind]
      rfl
    rw [hshow]
    cases negative with
    | false =>
      have hlower : Text.lowercase "inf" = "inf" := by decide +kernel
      exact .word (by simp only [Value.word?, hkind]; exact congrArg some hlower.symm)
    | true =>
      -- With its sign it begins like a number.
      have hbare : ∀ c ∈ ['i', 'n', 'f'], isBareChar c = true :=
        List.all_eq_true.1 (by decide +kernel)
      have hnumber : Number.IsNumberText (String.ofList ['-', 'i', 'n', 'f']).toList := by
        rw [String.toList_ofList]
        exact .cons (by decide) hbare
      exact .plain (.number hnumber) (by simp only [Value.word?, hkind])
  | zero negative =>
    have hfinite : (Number.DoubleKind.ofBits x.toBits.toNat).IsFinite := hkind ▸ trivial
    exact .plain (.number (Number.isNumberText_showDouble hfinite))
      (by simp only [Value.word?, hkind])
  | finite negative magnitude =>
    have hfinite : (Number.DoubleKind.ofBits x.toBits.toNat).IsFinite := hkind ▸ trivial
    exact .plain (.number (Number.isNumberText_showDouble hfinite))
      (by simp only [Value.word?, hkind])

/-- **Every value is written as a plain literal or as its word.** -/
theorem Value.Typable.writtenAs {v : Value} (hv : v.Typable) : v.WrittenAs v.asLiteral := by
  cases v with
  | float x => exact writtenAs_showDouble x
  | decimal s =>
    have hwritable : (Value.decimal s).Writable := hv
    exact .plain hwritable.isPlain rfl
  | text s => exact .plain (.quoted s) rfl
  | int n => exact .plain (.number (Number.isNumberText_showInt64 n)) rfl
  | bool b =>
    have hwritable : (Value.bool b).Writable := trivial
    exact .plain hwritable.isPlain rfl
  | date d => exact .plain (.quoted d.literal) rfl
  | dateTime dt => exact .plain (.quoted dt.literal) rfl
  | time t => exact .plain (.quoted t.clock) rfl

theorem Value.asLiteral_ne_null (v : Value) : v.asLiteral ≠ .null := by
  cases v <;> nofun

namespace Registry

variable {r : Registry} {v : Value}

/-! ## Literals that name filters -/

/-- The filter that a literal names, in any mixture of cases. In quotes none is named. -/
def named? (r : Registry) : Literal → Option Filter
  | .bare text => r.get? text
  | _ => none

/-- A literal stands for the attribute of the filter that it names. -/
theorem fieldReference?_eq_bind (r : Registry) (l : Literal) :
    r.fieldReference? l = (r.named? l).bind (·.attr) := by
  cases l <;> rfl

/-- A plain literal names no filter. -/
theorem WellFormed.named?_of_isPlain (h : r.WellFormed) {l : Literal} (hl : l.IsPlain) :
    r.named? l = none := by
  cases hl with
  | quoted text => rfl
  | number hnumber => exact h.get?_number hnumber

/-- **A value names the filter whose name is its word**, and if it has no word it names none. -/
theorem Consistent.named?_asLiteral_iff (h : r.Consistent) (hv : v.Typable) (f : Filter) :
    r.named? v.asLiteral = some f ↔ f ∈ r.filters ∧ v.word? = some f.queryName := by
  have hwritten := hv.writtenAs
  generalize v.asLiteral = l at hwritten
  cases hwritten with
  | plain hplain hword => simp [h.named?_of_isPlain hplain, hword]
  | word hword =>
    rw [named?, h.get?_eq_some_iff, hword, Option.some.injEq, eq_comm (a := f.queryName)]

/-! ## Comparisons with a value -/

/-- A filter is compared with the attribute of the filter that the value names, or else with the
value that it reads; never with the missing value. -/
theorem compileLiteral_asLiteral (r : Registry) (f : Filter) (op : Operator) (v : Value) :
    r.compileLiteral f op v.asLiteral =
      match (r.named? v.asLiteral).bind (·.attr) with
      | some path => f.compileField op path v.asLiteral.text
      | none => f.compileValue op v.asLiteral.text := by
  have hnull := v.asLiteral_ne_null
  unfold compileLiteral
  rw [fieldReference?_eq_bind]
  cases (r.named? v.asLiteral).bind (·.attr) with
  | some path => rfl
  | none =>
    generalize v.asLiteral = l at hnull
    cases l with
    | null => exact absurd rfl hnull
    | bare text => rfl
    | quoted text => rfl

/-- **When a value that is written is taken for a filter.**

After any name and operator, what is written for a value is read as one comparison with one literal
for it, and never as the missing value. The literal names a filter if and only if the value has a
word and that is the name of the filter. If the filter that is named has an attribute, the comparison
is one with that attribute, and in all other cases it is one with what the filter in front of it
reads. So only a double that is no number and the infinity above all numbers are ever mistaken, and
those only by a registry with a filter named `nan` or `inf`. -/
theorem literal_taken_iff (hr : r.Reachable) (hv : v.Typable) {name : String}
    (hname : FilterQuery.isName name = true) (op : Operator) (limits : Limits)
    (hlength : byteLength (name ++ op.symbol ++ v.literal).toList ≤ limits.maxLength) :
    Query.parseWithin limits (name ++ op.symbol ++ v.literal)
        = .ok ⟨[.statement (.comparison name op v.asLiteral)]⟩ ∧
      v.asLiteral ≠ .null ∧
      (∀ f, r.named? v.asLiteral = some f ↔ f ∈ r.filters ∧ v.word? = some f.queryName) ∧
      ∀ f ∈ r.filters, Text.EqIgnoringCase name f.queryName →
        r.compileWithin limits (name ++ op.symbol ++ v.literal) =
          match (r.named? v.asLiteral).bind (·.attr) with
          | some path => f.compileField op path v.asLiteral.text
          | none => f.compileValue op v.asLiteral.text := by
  have hconsistent : r.Consistent := hr.consistent
  have hstatement : (Statement.comparison name op v.asLiteral).WellFormed := ⟨hname, hv.wellFormed⟩
  have htext : (Statement.comparison name op v.asLiteral).render
      = name ++ op.symbol ++ v.literal := by
    rw [Statement.render, v.render_asLiteral]
  refine ⟨?_, v.asLiteral_ne_null, hconsistent.named?_asLiteral_iff hv, fun f hf hcase => ?_⟩
  · have hwrites := (writesCondition_comparison 0 hname op hv.wellFormed).expression
    rw [v.render_asLiteral] at hwrites
    exact hwrites.parseWithin (Nat.zero_le _) hlength
  · rw [← htext] at hlength ⊢
    rw [r.compileWithin_render hstatement hlength, compileStatement,
      hconsistent.compileComparison_eq hf hcase, compileLiteral_asLiteral]

/-- There are filters for both words. The infinity below all numbers is a value all the same, and a
double that is no number is taken for the filter that has its word as its name. -/
theorem literal_taken_iff_words :
    let r : Registry := ⟨[Filter.float "Rating", { Filter.text "NaN" with attr := some "notes" },
      Filter.boolean "inf"]⟩
    (Value.float (-(1 / 0))).word? = none ∧
      r.compileWithin {} "rating>=-inf"
        = .ok (.compare "Rating" .gte (.value (.float (-(1 / 0))))) ∧
      (Value.float (0 / 0)).word? = some "nan" ∧
      r.compileWithin {} "rating>=NaN" = .ok (.compare "Rating" .gte (.field "notes")) := by
  intro r
  have hr : r.Reachable := by
    refine .register (.register (.register .empty (register_eq_ok_iff.2 ⟨?_, rfl⟩))
      (register_eq_ok_iff.2 ⟨?_, rfl⟩)) (register_eq_ok_iff.2 ⟨?_, rfl⟩)
    all_goals decide
  have hrating : r.filters[0] ∈ r.filters := List.getElem_mem _
  have hask (v : Value) (hv : v.Typable) := literal_taken_iff hr hv
    (show FilterQuery.isName "rating" = true by decide) .gte {}
  have hbelow : (Value.float (-(1 / 0))).literal = "-inf" := by decide +kernel
  have hnone : (Value.float (0 / 0)).literal = "NaN" := by decide +kernel
  obtain ⟨-, -, -, hinfinite⟩ := hask (.float (-(1 / 0))) trivial (by rw [hbelow]; decide +kernel)
  obtain ⟨-, -, -, hundefined⟩ := hask (.float (0 / 0)) trivial (by rw [hnone]; decide +kernel)
  have hinfinite := hinfinite _ hrating (by decide)
  have hundefined := hundefined _ hrating (by decide)
  rw [hbelow] at hinfinite
  rw [hnone] at hundefined
  exact ⟨by decide +kernel, hinfinite.trans rfl, by decide +kernel, hundefined.trans rfl⟩

/-- **A value that is written may be taken for a filter**, where a filter is named `inf`: made
directly the comparison is one with the double, and written it is one with the attribute of that
filter. -/
theorem exists_value_taken_for_filter :
    let r : Registry := ⟨[Filter.float "rating", Filter.float "inf"]⟩
    let v : Value := .float (1 / 0)
    let b := ({} : BoundValues).set "rating" (.single v)
    (r.Reachable ∧ v.Typable ∧ v.literal = "inf") ∧
      Query.parseWithin {} "rating=inf" = .ok ⟨[.statement (.comparison "rating" .eq (.bare "inf"))]⟩ ∧
      (r.get? "inf").map (·.name) = some "inf" ∧
      b.predicate r = .ok (.compare "rating" .exact (.value v)) ∧
      b.write r = "rating=inf" ∧
      r.compileWithin {} (b.write r) = .ok (.compare "rating" .exact (.field "inf")) := by
  intro r v b
  have hr : r.Reachable := by
    refine .register (.register .empty (register_eq_ok_iff.2 ⟨?_, rfl⟩))
      (register_eq_ok_iff.2 ⟨?_, rfl⟩)
    all_goals decide
  have hwrite : b.write r = "rating=inf" := by decide +kernel
  have hparse : Query.parseWithin {} "rating=inf"
      = .ok ⟨[.statement (.comparison "rating" .eq (.bare "inf"))]⟩ := by decide +kernel
  have hcompile : r.compileWithin {} "rating=inf"
      = .ok (.compare "rating" .exact (.field "inf")) := by
    have hread : Query.parseWithin {} (Text.trim "rating=inf")
        = .ok ⟨[.statement (.comparison "rating" .eq (.bare "inf"))]⟩ := by decide +kernel
    rw [compileWithin_of_parseWithin hread (List.cons_ne_nil _ _)]
    rfl
  exact ⟨⟨hr, trivial, by decide +kernel⟩, hparse, by decide +kernel, rfl, hwrite, hwrite ▸ hcompile⟩

end Registry

end FilterQuery
