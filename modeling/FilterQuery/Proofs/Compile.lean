/-
Texts that are written from conditions, and what they compile to.

A text stands for a predicate if it is a way to write some condition that compiles to the predicate
(`StandsFor`). Which condition that is does not matter to whoever writes the text. Texts that stand
for predicates can be written one after the other, with a connective in between, and put in
parentheses, and what comes out stands for the predicates combined. What is compared is whether
there is a predicate and which; which error there is when there is none is left open.
-/
import FilterQuery.Compile
import FilterQuery.Proofs.Predicate.Precedence
import FilterQuery.Proofs.Query.Printing
import FilterQuery.Proofs.Results

set_option autoImplicit false

namespace FilterQuery

open Text (isBlank)

/-! ## Texts without blanks at their ends -/

/-- A text that neither begins nor ends with a blank. -/
structure IsTrimmed (s : List Char) : Prop where
  begins : ∃ c r, s = c :: r ∧ isBlank c = false
  ends : ∃ r c, s = r ++ [c] ∧ isBlank c = false

theorem IsTrimmed.between {s t : List Char} (hs : IsTrimmed s) (ht : IsTrimmed t)
    (between : List Char) : IsTrimmed (s ++ (between ++ t)) where
  begins := by
    obtain ⟨c, r, rfl, hc⟩ := hs.begins
    exact ⟨c, _, List.cons_append, hc⟩
  ends := by
    obtain ⟨r, c, rfl, hc⟩ := ht.ends
    exact ⟨s ++ (between ++ r), c, by simp, hc⟩

/-- Trimming leaves such a text alone. -/
theorem IsTrimmed.trimChars {s : List Char} (h : IsTrimmed s) : Text.trimChars s = s := by
  have hbegins : Text.skipBlanks s = s := by
    obtain ⟨c, r, rfl, hc⟩ := h.begins
    exact List.dropWhile_cons_of_neg (by simp [hc])
  obtain ⟨r, c, rfl, hc⟩ := h.ends
  rw [Text.trimChars, hbegins, Text.dropTrailingBlanks, List.reverse_append,
    List.reverse_singleton, List.singleton_append, List.dropWhile_cons_of_neg (by simp [hc]),
    List.reverse_cons, List.reverse_reverse]

theorem IsTrimmed.trim {text : String} (h : IsTrimmed text.toList) : Text.trim text = text := by
  rw [Text.trim, h.trimChars, String.ofList_toList]

/-- A text in parentheses has no blank at its ends. -/
theorem isTrimmed_parentheses (s : List Char) : IsTrimmed ('(' :: (s ++ [')'])) where
  begins := ⟨'(', s ++ [')'], rfl, by decide⟩
  ends := ⟨'(' :: s, ')', rfl, by decide⟩

/-- A text without any blank has none at its ends. -/
theorem isTrimmed_of_not_blank {s : List Char} (hne : s ≠ [])
    (hs : ∀ c ∈ s, isBlank c = false) : IsTrimmed s where
  begins := by
    obtain ⟨c, r, rfl⟩ := List.exists_cons_of_ne_nil hne
    exact ⟨c, r, rfl, hs c List.mem_cons_self⟩
  ends := ⟨_, _, (List.dropLast_concat_getLast hne).symm, hs _ (List.getLast_mem hne)⟩

/-- A bare value has no blank at all. -/
theorem isTrimmed_of_isBareChar {s : List Char} (hne : s ≠ [])
    (hbare : ∀ c ∈ s, isBareChar c = true) : IsTrimmed s :=
  isTrimmed_of_not_blank hne fun c hc => isBlank_eq_false_of_isBareChar (hbare c hc)

theorem isTrimmed_of_isName {name : String} (h : isName name = true) : IsTrimmed name.toList := by
  obtain ⟨c, t, ht, hc, hrest, -⟩ := isName_iff.1 h
  rw [ht]
  refine isTrimmed_of_not_blank (List.cons_ne_nil c t) (List.forall_mem_cons.2 ⟨?_, ?_⟩)
  · exact isBlank_eq_false_of_isNameChar (isNameChar_of_isNameStart hc)
  · exact fun x hx => isBlank_eq_false_of_isNameChar (hrest x hx)

/-- No literal ends with a blank, in whatever way it is written. -/
theorem Literal.WellFormed.ends {v : Literal} (hv : v.WellFormed) {s : List Char}
    (hs : v.token.Writes s) : ∃ r c, s = r ++ [c] ∧ isBlank c = false := by
  cases v with
  | quoted text =>
    cases hs with
    | quoted h => exact ⟨'"' :: _, '"', rfl, by decide⟩
  | bare | null =>
    obtain ⟨hne, hbare, -⟩ := bareLiteral_of_writes hv hs rfl
    exact (isTrimmed_of_isBareChar hne hbare).ends

/-- A text that begins with a name and ends with a literal has no blank at its ends. -/
theorem isTrimmed_comparison {name : String} (hname : isName name = true) {v : Literal}
    (hv : v.WellFormed) {s : List Char} (hs : v.token.Writes s) (between : List Char) :
    IsTrimmed (name.toList ++ (between ++ s)) where
  begins := by
    obtain ⟨c, t, ht, hc⟩ := (isTrimmed_of_isName hname).begins
    rw [ht]
    exact ⟨c, _, rfl, hc⟩
  ends := by
    obtain ⟨u, d, rfl, hd⟩ := hv.ends hs
    exact ⟨name.toList ++ (between ++ u), d, by simp only [List.append_assoc], hd⟩

/-- The canonical text of a statement has no blank at its ends. -/
theorem Statement.WellFormed.isTrimmed {s : Statement} (hs : s.WellFormed) :
    IsTrimmed s.render.toList := by
  cases s with
  | comparison name op v =>
    rw [Statement.render, String.toList_append, String.toList_append, List.append_assoc]
    exact isTrimmed_comparison hs.1 hs.2 v.writes_render op.symbol.toList
  | flag name negated =>
    have hname : IsTrimmed name.toList := isTrimmed_of_isName hs
    cases negated with
    | false => simpa [Statement.render] using hname
    | true =>
      obtain ⟨t, d, ht, hd⟩ := hname.ends
      rw [Statement.render, String.toList_append, ht]
      exact ⟨⟨'!', _, rfl, by decide⟩, ⟨_, d, (List.append_assoc _ _ _).symm, hd⟩⟩
  | freetext text =>
    have hends := Literal.WellFormed.ends (v := .quoted text) trivial (writes_quote text)
    rw [Text.quote, String.toList_ofList] at hends
    rw [Statement.render, Text.quote, String.toList_ofList]
    exact ⟨⟨'"', _, rfl, by decide⟩, hends⟩

namespace Registry

variable {r : Registry} {depth : Nat}

/-! ## Texts and their nodes -/

/-- **A text compiles to what its nodes compile to**, if there are nodes in it. -/
theorem compileWithin_of_parseWithin {limits : Limits} {text : String} {q : Query}
    (hread : Query.parseWithin limits (Text.trim text) = .ok q) (hnodes : q.nodes ≠ []) :
    r.compileWithin limits text = r.compileNodes q.nodes := by
  have hne : (Text.trim text).isEmpty = false := by
    refine Bool.eq_false_iff.2 fun hempty => hnodes ?_
    -- From an empty text no node is read.
    rw [String.isEmpty_iff.1 hempty] at hread
    exact congrArg Query.nodes (Except.ok.inj hread).symm
  unfold Registry.compileWithin
  simp only [hne, hread, Bool.false_eq_true, if_false]

/-- A text that compiles asks for nothing if it is blank; else it is read. -/
theorem exists_of_compileWithin {limits : Limits} {text : String} {p : Predicate}
    (h : r.compileWithin limits text = .ok p) :
    (Text.trim text).isEmpty = true ∧ p = .empty ∨
      (Text.trim text).isEmpty = false ∧ ∃ q,
        Query.parseWithin limits (Text.trim text) = .ok q ∧ r.compileNodes q.nodes = .ok p := by
  unfold Registry.compileWithin at h
  dsimp only at h
  split at h
  · rename_i hempty
    exact .inl ⟨hempty, (Except.ok.inj h).symm⟩
  · rename_i hempty
    split at h
    · simp at h
    · rename_i q hq
      exact .inr ⟨Bool.eq_false_iff.2 hempty, q, hq, h⟩

/-! ## Texts of conditions -/

/-- `text` writes the condition `n`, of groups at most `depth` deep, which compiles to `p`, if to
anything. -/
structure StandsFor (r : Registry) (depth : Nat) (text : String) (p : Option Predicate) (n : Node) :
    Prop where
  isCondition : IsCondition n
  nesting : n.nesting ≤ depth
  writes : WritesAlone n.tokens text.toList
  trimmed : IsTrimmed text.toList
  compiles : (r.compileNode n).toOption = p.map .predicate

/-- The text of a comparison stands for what the comparison compiles to. -/
theorem standsFor_comparison (r : Registry) (depth : Nat) {name : String}
    (hname : isName name = true) (op : Operator) {v : Literal} (hv : v.WellFormed) :
    r.StandsFor depth (name ++ op.symbol ++ v.render) (r.compileComparison name op v).toOption
      (.statement (.comparison name op v)) where
  isCondition := .statement ⟨hname, hv⟩
  nesting := by
    rw [Node.nesting]
    exact Nat.zero_le _
  writes := by
    rw [Node.tokens]
    exact Statement.writesAlone_render (.comparison name op v)
  trimmed := Statement.WellFormed.isTrimmed (s := .comparison name op v) ⟨hname, hv⟩
  compiles := toOption_map _ _

/-- `text` writes the nodes `ns` with the connective `k` between any two conditions, of groups at
most `depth` deep, which compile to the predicates `ps`, if to anything. -/
structure StandForEach (r : Registry) (depth : Nat) (k : Connective) (text : String)
    (ps : Option (List Predicate)) (ns : List Node) : Prop where
  isExpression : IsExpression ns
  nesting : Node.nestingEach ns ≤ depth
  writes : WritesAlone (Node.tokensEach ns) text.toList
  trimmed : IsTrimmed text.toList
  compiles : (r.compileEach ns).toOption = ps.map (Precedence.joined k)
  nonempty : ∀ qs ∈ ps, qs ≠ []

/-- **Texts with a connective between them stand for what each of them stands for.** The connective
may be in any of its spellings. -/
theorem standForEach_of_forall {α : Type} (k : Connective) (separator : String) (w : List Char)
    (hw : spells k.word w = true) (hseparator : separator.toList = ' ' :: (w ++ [' ']))
    {text : α → String} {p : α → Option Predicate} {x : α} {xs : List α}
    (h : ∀ y ∈ x :: xs, ∃ n, r.StandsFor depth (text y) (p y) n) :
    ∃ ns, r.StandForEach depth k (separator.intercalate ((x :: xs).map text))
      ((x :: xs).mapM p) ns := by
  induction xs generalizing x with
  | nil =>
    obtain ⟨n, hn⟩ := h x List.mem_cons_self
    refine ⟨[n], .one hn.isCondition, ?_, ?_, ?_, ?_, fun _ => ne_nil_of_mapM⟩
    · simpa [Node.nestingEach] using hn.nesting
    · simpa [Node.tokensEach] using hn.writes
    · simpa using hn.trimmed
    · rw [compileEach, toOption_bind, hn.compiles, List.mapM_cons]
      cases p x <;> rfl
  | cons y xs ih =>
    -- The nodes of the rest go behind the first condition and a connective.
    obtain ⟨n, hn⟩ := h x List.mem_cons_self
    obtain ⟨ns, hns⟩ := ih fun z hz => h z (List.mem_cons_of_mem x hz)
    have htext : (separator.intercalate ((x :: y :: xs).map text)).toList =
        (text x).toList ++ ' ' :: (w ++ ' ' ::
          (separator.intercalate ((y :: xs).map text)).toList) := by
      rw [List.map_cons, List.map_cons, String.intercalate_cons_cons, String.toList_append,
        String.toList_append, hseparator]
      simp
    refine ⟨n :: .connective k :: ns, .join k hn.isCondition hns.isExpression, ?_, ?_, ?_, ?_,
      fun _ => ne_nil_of_mapM⟩
    · have := hn.nesting
      have := hns.nesting
      simp only [Node.nestingEach, Node.nesting]
      omega
    · rw [htext]
      exact hn.writes.join hw hns.writes
    · rw [htext]
      simpa using hn.trimmed.between hns.trimmed (' ' :: (w ++ [' ']))
    · -- There is a predicate for all if there is one for the first and for each of the rest.
      have hcompiles := hns.compiles
      have hnonempty := hns.nonempty
      rw [compileEach, toOption_bind, hn.compiles, compileEach, compileNode, List.mapM_cons]
      generalize (y :: xs).mapM p = ps at hcompiles hnonempty
      cases p x with
      | none => rfl
      | some q =>
        simp only [Except.bind, toOption_map, hcompiles]
        cases ps with
        | none => rfl
        | some qs =>
          obtain ⟨q', qs, rfl⟩ := List.exists_cons_of_ne_nil (hnonempty qs rfl)
          rfl

namespace StandForEach

variable {k : Connective} {text : String} {ps : Option (List Predicate)} {ns : List Node}

/-- All the predicates are combined. -/
theorem compileNodes (h : r.StandForEach depth k text ps ns) :
    (r.compileNodes ns).toOption = ps.map k.applyAll := by
  have hnonempty := h.nonempty
  rw [Registry.compileNodes, toOption_bind, h.compiles]
  cases ps with
  | none => rfl
  | some qs =>
    rw [Option.map_some, Option.bind_some, combine, Precedence.resolve?_joined k (hnonempty qs rfl)]
    rfl

/-- In parentheses they are a condition. -/
theorem group (h : r.StandForEach depth k text ps ns) :
    r.StandsFor (depth + 1) ("(" ++ text ++ ")") (ps.map k.applyAll) (.group ns) where
  isCondition := .group h.isExpression
  nesting := by
    rw [Node.nesting]
    exact Nat.succ_le_succ h.nesting
  writes := by
    rw [Node.tokens, String.toList_append, String.toList_append]
    exact h.writes.group
  trimmed := by
    rw [String.toList_append, String.toList_append]
    exact isTrimmed_parentheses text.toList
  compiles := by
    rw [compileNode, toOption_map]
    exact congrArg (Option.map Item.predicate) h.compileNodes

/-- **On their own they are a query**, which compiles to what they stand for. -/
theorem compileWithin (h : r.StandForEach depth k text ps ns) {limits : Limits}
    (hdepth : depth ≤ limits.maxDepth) (hlength : byteLength text.toList ≤ limits.maxLength) :
    (r.compileWithin limits text).toOption = ps.map k.applyAll := by
  have hread : Query.parseWithin limits (Text.trim text) = .ok ⟨ns⟩ := by
    rw [h.trimmed.trim]
    exact parseWithin_of_spelling h.isExpression h.writes.layout (Nat.le_trans h.nesting hdepth)
      hlength
  rw [compileWithin_of_parseWithin hread h.isExpression.ne_nil]
  exact h.compileNodes

end StandForEach

end Registry

end FilterQuery
