/-
What is written as a query reads back.

A text that writes some tokens, and does so wherever nothing needs a blank in front of them or
behind them (`WritesAlone`), can be put into a group or joined with another one, with a connective
and single blanks in between. The canonical text of a query is made in this way from those of its
statements, so it is one of the query's spellings, and reading it back is a case of reading any
spelling.
-/
import FilterQuery.Proofs.Query.Soundness
import FilterQuery.Query.Printer

set_option autoImplicit false

namespace FilterQuery

/-! ## Texts of tokens -/

/-- Nothing needs a blank in front of a layout that may come after anything. -/
def Free (ts : List Token) (s : List Char) : Prop :=
  ∀ before, Layout before ts s

theorem free_nil : Free [] [] :=
  fun _ => .done isBlankText_nil

/-- After a blank no other is needed. -/
theorem Layout.free {ts : List Token} {s : List Char} (h : Layout none ts s) :
    Free ts (' ' :: s) := by
  have hb : ∀ {blanks : List Char}, IsBlankText blanks → IsBlankText (' ' :: blanks) := by
    intro blanks hblanks c hc
    obtain rfl | hc := List.mem_cons.1 hc
    · decide
    · exact hblanks c hc
  intro before
  cases h with
  | done hblanks => exact .done (hb hblanks)
  | token hblanks _ ht hs =>
    exact .token (hb hblanks) (fun _ _ _ => List.cons_ne_nil _ _) ht hs

/-- More blanks may be put in front of a layout. -/
theorem Layout.blanks {before : Option Token} {ts : List Token} {blanks s : List Char}
    (hb : IsBlankText blanks) (h : Layout before ts s) : Layout before ts (blanks ++ s) := by
  cases h with
  | done hs => exact .done (List.forall_mem_append.2 ⟨hb, hs⟩)
  | token hs hgap ht hrest =>
    rw [← List.append_assoc]
    refine .token (List.forall_mem_append.2 ⟨hb, hs⟩) ?_ ht hrest
    intro u hu hblank
    exact List.append_ne_nil_of_right_ne_nil _ (hgap u hu hblank)

/-- A layout may go on with one that may come after anything. -/
theorem Layout.append {before : Option Token} {ts more : List Token} {s rest : List Char}
    (h : Layout before ts s) (hrest : Free more rest) :
    Layout before (ts ++ more) (s ++ rest) := by
  induction h with
  | done hb => exact (hrest _).blanks hb
  | token hb hgap ht _ ih =>
    rw [List.append_assoc, List.append_assoc]
    exact .token hb hgap ht ih

/-- After a token that needs no blank behind it, a layout stands as it does at the beginning. -/
theorem Layout.after {ts : List Token} {s : List Char} (h : Layout none ts s) {u : Token}
    (hu : ∀ t, u.needsBlank t = false) : Layout (some u) ts s := by
  cases h with
  | done hb => exact .done hb
  | token hb _ ht hs =>
    refine .token hb ?_ ht hs
    rintro v ⟨⟩ hv
    rw [hu] at hv
    exact absurd hv (by decide)

/-- A token, where nothing in front of it needs a blank. -/
theorem Layout.lexeme (before : Option Token) {t : Token} {ts : List Token} {lexeme s : List Char}
    (ht : t.Writes lexeme) (hbefore : ∀ u ∈ before, u.needsBlank t = false)
    (hs : Layout (some t) ts s) : Layout before (t :: ts) (lexeme ++ s) := by
  refine .token isBlankText_nil ?_ ht hs
  intro u hu hblank
  rw [hbefore u hu] at hblank
  exact absurd hblank (by decide)

/-- Does `s` write the tokens wherever nothing needs a blank in front of them or behind them? -/
def WritesAlone (ts : List Token) (s : List Char) : Prop :=
  ∀ more rest, Free more rest → Layout none (ts ++ more) (s ++ rest)

namespace WritesAlone

/-- A text on its own. -/
theorem layout {ts : List Token} {s : List Char} (h : WritesAlone ts s) : Layout none ts s := by
  simpa using h [] [] free_nil

/-- Any text of the tokens does. -/
theorem ofLayout {ts : List Token} {s : List Char} (h : Layout none ts s) : WritesAlone ts s :=
  fun _ _ hmore => h.append hmore

/-- A text with blanks around it. -/
theorem pad {ts : List Token} {blanks s blanks' : List Char} (h : WritesAlone ts s)
    (hb : IsBlankText blanks) (hb' : IsBlankText blanks') :
    WritesAlone ts (blanks ++ (s ++ blanks')) := by
  intro more rest hmore
  rw [List.append_assoc, List.append_assoc]
  exact (h more (blanks' ++ rest) fun before => (hmore before).blanks hb').blanks hb

/-- A text in parentheses. -/
theorem group {ts : List Token} {s : List Char} (h : WritesAlone ts s) :
    WritesAlone (.opening :: (ts ++ [.closing])) ('(' :: (s ++ [')'])) := by
  intro more rest hmore
  have hclosing : Free (.closing :: more) (')' :: rest) := fun before =>
    Layout.lexeme before .closing (fun u _ => by cases u <;> rfl) (hmore _)
  simpa using Layout.lexeme none .opening nofun ((h _ _ hclosing).after fun _ => rfl)

/-- Two texts with a connective between them, in any of its spellings. -/
theorem join {ts us : List Token} {s t w : List Char} {k : Connective} (hs : WritesAlone ts s)
    (hw : spells k.word w = true) (ht : WritesAlone us t) :
    WritesAlone (ts ++ .connective k :: us) (s ++ ' ' :: (w ++ ' ' :: t)) := by
  intro more rest hmore
  have hconnective : Layout none (.connective k :: (us ++ more)) (w ++ ' ' :: (t ++ rest)) :=
    Layout.lexeme none (.connective hw) nofun ((ht more rest hmore).free _)
  simpa using hs _ _ hconnective.free

end WritesAlone

/-! ## Statements -/

/-- What is written between quotes is a quoting. -/
theorem quoting_escapeQuoted (s : List Char) : Quoting s (Text.escapeQuoted s) := by
  induction s with
  | nil => exact .nil
  | cons c s ih =>
    rw [Text.escapeQuoted, List.flatMap_cons]
    cases hc : Text.needsEscape c with
    | true => exact .escaped hc ih
    | false => exact .plain hc ih

theorem writes_quote (text : String) : (Token.quoted text).Writes (Text.quote text).toList := by
  rw [Text.quote, String.toList_ofList]
  exact .quoted (quoting_escapeQuoted text.toList)

/-- A literal is written as its token. -/
theorem Literal.writes_render (v : Literal) : v.token.Writes v.render.toList := by
  cases v with
  | bare text => exact .bare text
  | quoted text => exact writes_quote text
  | null => exact .null (by decide)

theorem Operator.symbol_mem_spellings (op : Operator) : op.symbol ∈ op.spellings := by
  cases op <;> decide

/-- A comparison is written by its name, its operator and its value, the operator in any of its
spellings and with blanks around it or without. -/
theorem WritesAlone.comparison (name : String) {op : Operator} {symbol : String}
    (hsymbol : symbol ∈ op.spellings) {v : Literal} {gap gap' s : List Char}
    (hgap : IsBlankText gap) (hgap' : IsBlankText gap') (hv : v.token.Writes s) :
    WritesAlone (Statement.comparison name op v).tokens
      (name.toList ++ (gap ++ (symbol.toList ++ (gap' ++ s)))) := by
  intro more rest hmore
  -- Nothing here would run together with what is in front of it, so no blank is needed.
  have hvalue : Layout (some (.operator op)) (v.token :: more) (gap' ++ (s ++ rest)) :=
    .token hgap' (by simp [Token.needsBlank]) hv (hmore _)
  have hoperator : Layout (some (.name name)) (.operator op :: v.token :: more)
      (gap ++ (symbol.toList ++ (gap' ++ (s ++ rest)))) :=
    .token hgap (by simp [Token.needsBlank]) (.operator hsymbol) hvalue
  simp only [List.append_assoc]
  exact .lexeme none (.name name) (by simp) hoperator

/-- The canonical text of a statement writes its tokens. -/
theorem Statement.writesAlone_render (s : Statement) : WritesAlone s.tokens s.render.toList := by
  cases s with
  | comparison name op v =>
    rw [Statement.render, String.toList_append, String.toList_append, List.append_assoc]
    exact .comparison name op.symbol_mem_spellings isBlankText_nil isBlankText_nil v.writes_render
  | flag name negated =>
    intro more rest hmore
    have hname : Layout none (.name name :: more) (name.toList ++ rest) :=
      .lexeme none (.name name) nofun (hmore _)
    cases negated with
    | false => simpa [Statement.render, Statement.tokens] using hname
    | true =>
      simpa [Statement.render, Statement.tokens] using
        Layout.lexeme none .bang nofun (hname.after fun _ => rfl)
  | freetext text =>
    intro more rest hmore
    exact .lexeme none (writes_quote text) nofun (hmore _)

/-! ## Queries -/

theorem Connective.spells_word (k : Connective) : spells k.word k.word.toList = true := by
  cases k <;> decide

mutual

/-- The canonical text of a condition writes its tokens. -/
theorem writesAlone_condition {n : Node} (hn : IsCondition n) :
    WritesAlone n.tokens n.render.toList := by
  match hn with
  | .statement (s := s) _ =>
    rw [Node.render]
    exact s.writesAlone_render
  | .group hns =>
    rw [Node.render, String.toList_append, String.toList_append]
    exact (writesAlone_expression hns).group

/-- So does that of an expression. -/
theorem writesAlone_expression {ns : List Node} (hns : IsExpression ns) :
    WritesAlone (Node.tokensEach ns) (" ".intercalate (Node.renderEach ns)).toList := by
  match hns with
  | .one (n := n) hn =>
    simpa [Node.tokensEach, Node.renderEach] using writesAlone_condition hn
  | @IsExpression.join n ns k hn hs =>
    have hne : Node.renderEach ns ≠ [] := by
      cases hs <;> exact List.cons_ne_nil _ _
    simp only [Node.tokensEach, Node.renderEach, Node.tokens, Node.render,
      String.intercalate_cons_cons, String.intercalate_cons_of_ne_nil hne]
    simpa using (writesAlone_condition hn).join k.spells_word (writesAlone_expression hs)

end

/-- **The canonical text of a well-formed query is one of its spellings.** -/
theorem Query.spelling_render {q : Query} (hq : q.WellFormed) : q.Spelling q.render :=
  (writesAlone_expression hq).layout

/-- What is written for a query reads back, with nothing but an empty text for an empty query. -/
theorem parseWithin_of_wellFormed {limits : Limits} {q : Query}
    (hq : q.nodes = [] ∨ q.WellFormed) (hdepth : q.nesting ≤ limits.maxDepth)
    (hlength : byteLength q.render.toList ≤ limits.maxLength) :
    Query.parseWithin limits q.render = .ok q := by
  obtain hq | hq := hq
  · obtain ⟨nodes⟩ := q
    obtain rfl : nodes = [] := hq
    rfl
  · exact parseWithin_of_spelling hq (Query.spelling_render hq) hdepth hlength

/-- What has been read is well formed, unless nothing has been read. -/
theorem wellFormed_of_parseWithin {limits : Limits} {text : String} {q : Query}
    (h : Query.parseWithin limits text = .ok q) : q.nodes = [] ∨ q.WellFormed := by
  by_cases hq : q.nodes = []
  · exact .inl hq
  · exact .inr (spelling_of_parseWithin h hq).1

/-- **What is written as a query reads back**, within limits that leave room for it. So does every
query that has been read, whatever text it has been read from. -/
theorem Query.parseWithin_render :
    (∀ (limits : Limits) (q : Query), q.nodes = [] ∨ q.WellFormed → q.nesting ≤ limits.maxDepth →
      byteLength q.render.toList ≤ limits.maxLength →
      Query.parseWithin limits q.render = .ok q) ∧
    (∀ (limits limits' : Limits) (text : String) (q : Query),
      Query.parseWithin limits text = .ok q → q.nesting ≤ limits'.maxDepth →
      byteLength q.render.toList ≤ limits'.maxLength →
      Query.parseWithin limits' q.render = .ok q) := by
  constructor
  · intro limits q hq hdepth hlength
    exact parseWithin_of_wellFormed hq hdepth hlength
  · intro limits limits' text q hread hdepth hlength
    exact parseWithin_of_wellFormed (wellFormed_of_parseWithin hread) hdepth hlength

/-- A query with quotes, backslashes and connectives inside quoted text, and one that has been read
from a text that is not its own. -/
theorem Query.parseWithin_render_mixed :
    let q : Query := ⟨[.statement (.freetext "a \"or\" \\b\\"), .connective .or,
      .group [.statement (.comparison "c" .notEq .null), .connective .and,
        .statement (.flag "d" true)]]⟩
    let q' : Query := ⟨[.statement (.comparison "a" .lte (.bare "1")), .connective .and,
      .statement (.freetext "b")]⟩
    (q.WellFormed ∧ Query.parseWithin ⟨1, 44⟩ q.render = .ok q) ∧
      Query.parseWithin ⟨0, 20⟩ "a=<1  AND\"b\"" = .ok q' ∧
      Query.parseWithin ⟨0, 20⟩ q'.render = .ok q' := by
  intro q q'
  have hc : IsCondition (.statement (.comparison "c" .notEq .null)) :=
    .statement ⟨by decide, trivial⟩
  have hd : IsCondition (.statement (.flag "d" true)) :=
    .statement (show isName "d" = true by decide)
  have hq : q.WellFormed :=
    .join .or (.statement trivial) (.one (.group (.join .and hc (.one hd))))
  have hrun : (State.start "a=<1  AND\"b\"".toList).run ⟨0, 20⟩ = .ok q'.nodes := by
    iterate 3 refine (State.run_of_step rfl).trans ?_
    exact State.run_of_done rfl
  have hread : Query.parseWithin ⟨0, 20⟩ "a=<1  AND\"b\"" = .ok q' :=
    parseWithin_of_run (by decide) hrun (by decide)
  exact ⟨⟨hq, Query.parseWithin_render.1 ⟨1, 44⟩ q (.inr hq) (by decide) (by decide)⟩, hread,
    Query.parseWithin_render.2 ⟨0, 20⟩ ⟨0, 20⟩ _ q' hread (by decide) (by decide)⟩

end FilterQuery
