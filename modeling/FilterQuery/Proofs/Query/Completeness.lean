/-
Every layout of a well-formed query is read as that query.

The reader is followed along the nodes of the query. Where it expects a condition and the text is a
layout of one, it comes to the point behind that condition with the condition among its nodes and
the groups around it as they were; a group is entered and left again on the way. What is left of the
text is then a layout of the tokens that follow. The reader may be ahead of the layout by some
blanks, which it skips sooner than the next token needs them, so that both are compared without the
blanks they begin with.
-/
import FilterQuery.Proofs.Query.Tokens
import FilterQuery.Query.Parser

set_option autoImplicit false

namespace FilterQuery

open Text (isBlank skipBlanks)

/-! ## The beginning of a layout -/

/-- A word in front of a layout ends there, if a blank is needed before the next word. -/
theorem Layout.head_not_bare {t : Token} {ts : List Token} {s : List Char}
    (h : Layout (some t) ts s) (hword : ∀ u ∈ ts.head?, u.isWord = true → t.needsBlank u = true) :
    ∀ c ∈ s.head?, isBareChar c = false := by
  have hblank : ∀ {blanks rest : List Char} {c : Char}, IsBlankText blanks → blanks ≠ [] →
      c ∈ (blanks ++ rest).head? → isBareChar c = false := by
    intro blanks rest c hb hne hc
    obtain ⟨b, bs, rfl⟩ := List.exists_cons_of_ne_nil hne
    obtain rfl : b = c := by simpa using hc
    exact isBareChar_eq_false_of_isBlank (hb b List.mem_cons_self)
  cases h with
  | done hb =>
    intro c hc
    cases s with
    | nil => simp at hc
    | cons b bs =>
      rw [← List.append_nil (b :: bs)] at hc
      exact hblank hb (by simp) hc
  | @token _ u _ blanks lexeme s hb hgap hu hs =>
    intro c hc
    by_cases hne : blanks = []
    · -- Without a blank between them the next token is no word, and a sign ends a word.
      subst hne
      have hnot : u.isWord = false :=
        Bool.eq_false_iff.2 fun hw => hgap t rfl (hword u rfl hw) rfl
      obtain ⟨x, r, rfl, hx⟩ := exists_sign_of_writes hnot hu
      obtain rfl : x = c := by simpa using hc
      exact isBareChar_eq_false_of_mem_signs hx
    · exact hblank hb hne hc

/-- Is the first character of any spelling of the token not blank? All tokens of well-formed queries
are so. -/
def Token.IsInked (t : Token) : Prop :=
  ∀ s, t.Writes s → ∃ c r, s = c :: r ∧ isBlank c = false

theorem Token.isInked_of_not_word {t : Token} (ht : t.isWord = false) : t.IsInked := by
  intro s hs
  obtain ⟨c, r, rfl, hc⟩ := exists_sign_of_writes ht hs
  exact ⟨c, r, rfl, isBlank_eq_false_of_mem_signs hc⟩

theorem Token.isInked_connective (k : Connective) : (Token.connective k).IsInked := by
  intro s hs
  cases hs with
  | connective h =>
    obtain ⟨c, r, heq, hc⟩ := exists_alpha_of_spells_connective h
    exact ⟨c, r, heq, isBlank_eq_false_of_isNameChar (isNameChar_of_isAlpha hc)⟩

theorem Token.isInked_name {name : String} (hn : isName name = true) :
    (Token.name name).IsInked := by
  intro s hs
  cases hs
  obtain ⟨c, r, hs, hc, -, -⟩ := isName_iff.1 hn
  exact ⟨c, r, hs, isBlank_eq_false_of_isNameChar (isNameChar_of_isNameStart hc)⟩

/-- Without its blanks in front, a layout begins with a spelling of its first token. -/
theorem Layout.exists_lexeme {before : Option Token} {t : Token} {ts : List Token} {s : List Char}
    (h : Layout before (t :: ts) s) (ht : t.IsInked) :
    ∃ lexeme rest, t.Writes lexeme ∧ Layout (some t) ts rest ∧ skipBlanks s = lexeme ++ rest := by
  cases h with
  | @token _ _ _ blanks lexeme rest hb hgap hw hs =>
    obtain ⟨c, r, rfl, hc⟩ := ht lexeme hw
    refine ⟨_, rest, hw, hs, ?_⟩
    rw [skipBlanks_append hb, List.cons_append, skipBlanks_cons _ hc]

/-! ## Statements -/

/-- May these tokens follow a condition? -/
def FollowsCondition (more : List Token) : Prop :=
  ∀ u ∈ more.head?, u = .closing ∨ ∃ k, u = .connective k

/-- A word that ends a condition is not continued by what follows the condition. -/
theorem Layout.head_not_bare_of_follows {t : Token} {more : List Token} {s : List Char}
    (h : Layout (some t) more s) (hmore : FollowsCondition more)
    (ht : ∀ k, t.needsBlank (.connective k) = true) : ∀ c ∈ s.head?, isBareChar c = false := by
  refine h.head_not_bare fun u hu hw => ?_
  rcases hmore u hu with rfl | ⟨k, rfl⟩
  · simp [Token.isWord] at hw
  · exact ht k

/-- No operator begins what follows a condition. -/
theorem Layout.read?_eq_none {before : Option Token} {more : List Token} {s : List Char}
    (h : Layout before more s) (hmore : FollowsCondition more) :
    Operator.read? (skipBlanks s) = none := by
  refine FilterQuery.read?_eq_none fun c hc => ?_
  cases more with
  | nil =>
    cases h with
    | done hb => simp [skipBlanks_eq_nil hb] at hc
  | cons u more =>
    rcases hmore u rfl with rfl | ⟨k, rfl⟩
    · obtain ⟨lexeme, rest, hw, -, hs⟩ := h.exists_lexeme (Token.isInked_of_not_word rfl)
      cases hw
      obtain rfl : ')' = c := by simpa [hs] using hc
      decide
    · obtain ⟨lexeme, rest, hw, -, hs⟩ := h.exists_lexeme (Token.isInked_connective k)
      cases hw with
      | connective hk =>
        obtain ⟨x, r, rfl, halpha⟩ := exists_alpha_of_spells_connective hk
        obtain rfl : x = c := by simpa [hs] using hc
        simp only [List.mem_cons, List.not_mem_nil, or_false, not_or]
        refine ⟨?_, ?_, ?_, ?_, ?_⟩ <;> (rintro rfl; exact absurd halpha (by decide))

/-- A text that begins with a name is read as a statement by way of that name. -/
theorem readStatement_name {name : String} {s : List Char} (hn : isName name = true)
    (hs : ∀ c ∈ s.head?, isNameChar c = false) :
    readStatement (name.toList ++ s) = readComparison name s := by
  obtain ⟨c, r, hname, hc, -, -⟩ := isName_iff.1 hn
  have hread := readName_append hn hs
  rw [hname, List.cons_append] at hread ⊢
  unfold readStatement
  split
  · rename_i heq
    simp at heq
  · rename_i heq
    obtain rfl := (List.cons.inj heq).1
    exact absurd hc (by decide)
  · rename_i heq
    obtain rfl := (List.cons.inj heq).1
    exact absurd hc (by decide)
  · rename_i heq
    obtain rfl := (List.cons.inj heq).1
    rw [if_pos hc, hread]
    rfl

/-- A value, and blanks in front of it, make no other operator of the operator before it. -/
theorem Layout.head_of_value {before : Option Token} {v : Literal} {more : List Token}
    {s : List Char} (hv : v.WellFormed) (h : Layout before (v.token :: more) s) :
    ∀ x ∈ s.head?, x ∉ ['=', '<', '>'] := by
  intro x hx hmem
  have hsign : x ∈ signs := by
    obtain rfl | rfl | rfl : x = '=' ∨ x = '<' ∨ x = '>' := by simpa using hmem
    all_goals decide
  have hblank := isBlank_eq_false_of_mem_signs hsign
  have hbare := isBareChar_eq_false_of_mem_signs hsign
  cases h with
  | @token _ _ _ blanks w rest hb hgap hw hs =>
    cases blanks with
    | cons b bs =>
      obtain rfl : b = x := by simpa using hx
      exact absurd (hb b List.mem_cons_self) (by simp [hblank])
    | nil =>
      by_cases hword : v.token.isWord = true
      · obtain ⟨hne, hrun, -⟩ := bareLiteral_of_writes hv hw hword
        obtain ⟨c, r, rfl⟩ := List.exists_cons_of_ne_nil hne
        obtain rfl : c = x := by simpa using hx
        exact absurd (hrun c List.mem_cons_self) (by simp [hbare])
      · cases v with
        | bare text => exact absurd rfl hword
        | null => exact absurd rfl hword
        | quoted text =>
          cases hw with
          | quoted hq =>
            obtain rfl : '"' = x := by simpa using hx
            exact absurd hmem (by decide)

/-- After an operator the value is read from any of its spellings. -/
theorem readComparison_of_layout (name : String) {op : Operator} {v : Literal} {t : Token}
    {more : List Token} {s : List Char} (hv : v.WellFormed) (hmore : FollowsCondition more)
    (h : Layout (some t) (.operator op :: v.token :: more) s) :
    ∃ rest, Layout (some v.token) more rest ∧
      readComparison name s = .ok (.comparison name op v, rest) := by
  obtain ⟨lexeme, tail, hw, hs, hskip⟩ := h.exists_lexeme (Token.isInked_of_not_word rfl)
  -- No value begins with a sign that would make another operator of this one.
  have htail := hs.head_of_value hv
  cases hw with
  | operator hsymbol =>
    cases hs with
    | @token _ _ _ blanks w rest hb _ hw hs =>
      have hrest : v.token.isWord = true → ∀ c ∈ rest.head?, isBareChar c = false := by
        intro hword
        refine hs.head_not_bare_of_follows hmore fun k => ?_
        cases v with
        | quoted text => simp [Literal.token, Token.isWord] at hword
        | bare text => rfl
        | null => rfl
      have hop := read?_append hsymbol htail
      have hval := readValue_append hb hv hw hrest
      refine ⟨rest, hs, ?_⟩
      rw [readComparison, hskip, hop]
      simp only [hval]
      rfl

/-- **A statement is read from any of its layouts.** What follows it may not be read yet. -/
theorem readStatement_of_layout {st : Statement} (hst : st.WellFormed) {before : Option Token}
    {more : List Token} {s : List Char} (h : Layout before (st.tokens ++ more) s)
    (hmore : FollowsCondition more) :
    ∃ last rest unread, Layout (some last) more rest ∧ skipBlanks unread = skipBlanks rest ∧
      readStatement (skipBlanks s) = .ok (st, unread) := by
  cases st with
  | comparison name op v =>
    obtain ⟨lexeme, s₁, hw, hs₁, hskip⟩ := h.exists_lexeme (Token.isInked_name hst.1)
    cases hw
    have hhead : ∀ c ∈ s₁.head?, isNameChar c = false := fun c hc =>
      isNameChar_eq_false_of_not_bare (hs₁.head_not_bare (by simp [Token.isWord]) c hc)
    obtain ⟨rest, hrest, hread⟩ := readComparison_of_layout name hst.2 hmore hs₁
    refine ⟨_, rest, rest, hrest, rfl, ?_⟩
    rw [hskip, readStatement_name hst.1 hhead, hread]
  | flag name negated =>
    cases negated with
    | false =>
      obtain ⟨lexeme, rest, hw, hrest, hskip⟩ := h.exists_lexeme (Token.isInked_name hst)
      cases hw
      have hhead : ∀ c ∈ rest.head?, isNameChar c = false := fun c hc =>
        isNameChar_eq_false_of_not_bare
          (hrest.head_not_bare_of_follows hmore (fun _ => rfl) c hc)
      refine ⟨_, rest, skipBlanks rest, hrest, skipBlanks_skipBlanks rest, ?_⟩
      rw [hskip, readStatement_name hst hhead, readComparison, hrest.read?_eq_none hmore]
    | true =>
      obtain ⟨lexeme, s₁, hw, hs₁, hskip⟩ := h.exists_lexeme (Token.isInked_of_not_word rfl)
      cases hw
      obtain ⟨lexeme, rest, hw, hrest, hskip₁⟩ := hs₁.exists_lexeme (Token.isInked_name hst)
      cases hw
      have hhead : ∀ c ∈ rest.head?, isNameChar c = false := fun c hc =>
        isNameChar_eq_false_of_not_bare
          (hrest.head_not_bare_of_follows hmore (fun _ => rfl) c hc)
      refine ⟨_, rest, rest, hrest, rfl, ?_⟩
      rw [hskip, List.singleton_append, readStatement, hskip₁, readName_append hst hhead]
      rfl
  | freetext text =>
    obtain ⟨lexeme, rest, hw, hrest, hskip⟩ := h.exists_lexeme (Token.isInked_of_not_word rfl)
    cases hw with
    | quoted hq =>
      have hread := readQuotedText_append hq rest
      refine ⟨_, rest, rest, hrest, rfl, ?_⟩
      rw [hskip, List.cons_append, List.append_assoc, List.singleton_append, readStatement, hread]
      rfl

/-! ## Conditions -/

namespace State

variable {limits : Limits}

/-- A step leads on to where it goes. -/
theorem run_of_step {st next : State} (h : st.step limits = .ok (.go next)) :
    st.run limits = next.run limits := by
  rw [run]
  split <;> simp_all

/-- A step that ends the text ends the run. -/
theorem run_of_done {st : State} {nodes : List Node} (h : st.step limits = .ok (.done nodes)) :
    st.run limits = .ok nodes := by
  rw [run]
  split <;> simp_all

/-- A step that finds a fault ends the run, too. -/
theorem run_of_error {st : State} {f : Fault} (h : st.step limits = .error f) :
    st.run limits = .error f := by
  rw [run]
  split <;> simp_all

/-- A statement is read in one step. -/
theorem step_statement {groups : List OpenGroup} {nodes : List Node} {s unread rest : List Char}
    {st : Statement} (hs : skipBlanks unread = s) (h : readStatement s = .ok (st, rest)) :
    step limits ⟨.condition, groups, nodes, unread⟩
      = .ok (.go ⟨.continuation, groups, .statement st :: nodes, rest⟩) := by
  subst hs
  unfold step stepCondition
  dsimp only
  split
  · -- No statement begins with a parenthesis.
    rename_i heq
    rw [heq] at h
    exact absurd h (by simp [readStatement, show isNameStart '(' = false by decide])
  · rw [h]
    rfl

/-- A group is entered in one step, within the limit on depth. -/
theorem step_opening {groups : List OpenGroup} {nodes : List Node} {unread s : List Char}
    (hs : skipBlanks unread = '(' :: s) (hdepth : groups.length < limits.maxDepth)
    (hne : ∀ r, skipBlanks s ≠ ')' :: r) :
    step limits ⟨.condition, groups, nodes, unread⟩
      = .ok (.go ⟨.condition, ⟨nodes, '(' :: s⟩ :: groups, [], skipBlanks s⟩) := by
  unfold step stepCondition
  dsimp only
  rw [hs]
  simp only [openGroup, if_neg (Nat.not_le.2 hdepth)]

/-- A group is left in one step. -/
theorem step_closing {g : OpenGroup} {groups : List OpenGroup} {nodes : List Node}
    {unread s : List Char} (hs : skipBlanks unread = ')' :: s) :
    step limits ⟨.continuation, g :: groups, nodes, unread⟩
      = .ok (.go ⟨.continuation, groups, .group nodes.reverse :: g.before, s⟩) := by
  unfold step stepContinuation
  dsimp only
  rw [hs]
  rfl

/-- A connective is read in one step. -/
theorem step_connective {groups : List OpenGroup} {nodes : List Node}
    {unread lexeme rest : List Char} {k : Connective} (hs : skipBlanks unread = lexeme ++ rest)
    (hk : spells k.word lexeme = true) (hrest : ∀ c ∈ rest.head?, isNameChar c = false) :
    step limits ⟨.continuation, groups, nodes, unread⟩
      = .ok (.go ⟨.condition, groups, .connective k :: nodes, rest⟩) := by
  have hread := Connective.read?_append hk hrest
  obtain ⟨c, r, rfl, halpha⟩ := exists_alpha_of_spells_connective hk
  unfold step stepContinuation
  dsimp only
  rw [hs]
  split
  · rename_i heq
    simp at heq
  · rename_i heq
    obtain rfl : c = ')' := (List.cons.inj heq).1
    exact absurd halpha (by decide)
  · rw [hread]

/-- The text ends in one step, if no group is open. -/
theorem step_end {nodes : List Node} {unread : List Char} (hs : skipBlanks unread = []) :
    step limits ⟨.continuation, [], nodes, unread⟩ = .ok (.done nodes.reverse) := by
  unfold step stepContinuation
  dsimp only
  rw [hs]
  rfl

end State

/-! ## Whole queries -/

/-- May a condition begin with this token? It is not blank and closes nothing, and if it is a word,
a blank stands between it and a connective. -/
def Token.BeginsCondition (t : Token) : Prop :=
  t.IsInked ∧ (∀ r, ¬ t.Writes (')' :: r)) ∧
    ∀ k, t.isWord = true → (Token.connective k).needsBlank t = true

theorem Token.beginsCondition_name {name : String} (hn : isName name = true) :
    (Token.name name).BeginsCondition := by
  refine ⟨Token.isInked_name hn, ?_, fun _ _ => rfl⟩
  intro r hw
  obtain ⟨c, x, hs, hc, -, -⟩ := isName_iff.1 hn
  generalize hlex : ')' :: r = lexeme at hw
  cases hw
  obtain rfl := (List.cons.inj (hlex.trans hs)).1
  exact absurd hc (by decide)

/-- The tokens of a condition begin as they may. -/
theorem tokens_of_isCondition {n : Node} (hn : IsCondition n) :
    ∃ t ts, n.tokens = t :: ts ∧ t.BeginsCondition := by
  have hsign : ∀ {t : Token}, t.isWord = false → (∀ r, ¬ t.Writes (')' :: r)) →
      t.BeginsCondition := fun ht hr => ⟨Token.isInked_of_not_word ht, hr, by simp [ht]⟩
  cases hn with
  | group h => exact ⟨_, _, rfl, hsign rfl nofun⟩
  | @statement s hs =>
    cases s with
    | comparison name op v => exact ⟨_, _, rfl, Token.beginsCondition_name hs.1⟩
    | flag name negated =>
      cases negated with
      | false => exact ⟨_, _, rfl, Token.beginsCondition_name hs⟩
      | true => exact ⟨_, _, rfl, hsign rfl nofun⟩
    | freetext text => exact ⟨_, _, rfl, hsign rfl nofun⟩

/-- So do those of an expression. -/
theorem tokens_of_isExpression {ns : List Node} (hns : IsExpression ns) :
    ∃ t ts, Node.tokensEach ns = t :: ts ∧ t.BeginsCondition := by
  cases hns with
  | one hn =>
    obtain ⟨t, ts, heq, ht⟩ := tokens_of_isCondition hn
    exact ⟨t, _, by rw [Node.tokensEach, heq, List.cons_append], ht⟩
  | join k hn hs =>
    obtain ⟨t, ts, heq, ht⟩ := tokens_of_isCondition hn
    exact ⟨t, _, by rw [Node.tokensEach, heq, List.cons_append], ht⟩

/-- From where a condition is expected and `s` is unread the reader comes to where `rest` is unread,
with more nodes but the same open groups, whatever blanks it has skipped already. -/
def ReadsOn (limits : Limits) (groups : List OpenGroup) (nodes nodes' : List Node)
    (s rest : List Char) : Prop :=
  ∀ unread, skipBlanks unread = skipBlanks s →
    ∃ unread', skipBlanks unread' = skipBlanks rest ∧
      State.run limits ⟨.condition, groups, nodes, unread⟩
        = State.run limits ⟨.continuation, groups, nodes', unread'⟩

mutual

/-- A condition is read from any of its layouts. -/
theorem readsOn_condition {n : Node} (hn : IsCondition n) (limits : Limits)
    (groups : List OpenGroup) (nodes : List Node) {before : Option Token} {more : List Token}
    {s : List Char} (h : Layout before (n.tokens ++ more) s) (hmore : FollowsCondition more)
    (hdepth : groups.length + n.nesting ≤ limits.maxDepth) :
    ∃ last rest, Layout (some last) more rest ∧
      ReadsOn limits groups nodes (n :: nodes) s rest := by
  match hn with
  | .statement hs =>
    obtain ⟨last, rest, unread', hrest, hskip, hread⟩ := readStatement_of_layout hs h hmore
    refine ⟨last, rest, hrest, fun unread hunread => ⟨unread', hskip, ?_⟩⟩
    exact State.run_of_step (State.step_statement hunread hread)
  | @IsCondition.group ns hns =>
    rw [Node.tokens, List.cons_append, List.append_assoc, List.singleton_append] at h
    rw [Node.nesting] at hdepth
    obtain ⟨lexeme, s₁, hw, hs₁, hskip⟩ := h.exists_lexeme (Token.isInked_of_not_word rfl)
    cases hw
    rw [List.singleton_append] at hskip
    have hclosing : FollowsCondition (.closing :: more) := by
      intro u hu
      exact .inl (by simpa using hu.symm)
    have hne : ∀ r, skipBlanks s₁ ≠ ')' :: r := by
      intro r hr
      obtain ⟨t, ts, heq, hink, hnot, -⟩ := tokens_of_isExpression hns
      rw [heq] at hs₁
      obtain ⟨lexeme, rest, hw, -, hlex⟩ := hs₁.exists_lexeme hink
      obtain ⟨c, x, rfl, -⟩ := hink _ hw
      rw [hr, List.cons_append] at hlex
      obtain rfl := (List.cons.inj hlex).1
      exact hnot _ hw
    -- The group is entered, its nodes are read on their own, and it is left.
    obtain ⟨last, s₂, hs₂, hreads⟩ := readsOn_expression hns limits
      (⟨nodes, '(' :: s₁⟩ :: groups) [] hs₁ hclosing
      (by rw [List.length_cons]; omega)
    obtain ⟨lexeme, rest, hw, hrest, hskip₂⟩ := hs₂.exists_lexeme (Token.isInked_of_not_word rfl)
    cases hw
    rw [List.singleton_append] at hskip₂
    refine ⟨_, rest, hrest, fun unread hunread => ⟨rest, rfl, ?_⟩⟩
    obtain ⟨unread', hunread', hrun⟩ := hreads (skipBlanks s₁) (skipBlanks_skipBlanks s₁)
    rw [State.run_of_step (State.step_opening (hunread.trans hskip) (by omega) hne), hrun,
      State.run_of_step (State.step_closing (hunread'.trans hskip₂)), List.append_nil,
      List.reverse_reverse]

/-- An expression is read from any of its layouts. -/
theorem readsOn_expression {ns : List Node} (hns : IsExpression ns) (limits : Limits)
    (groups : List OpenGroup) (nodes : List Node) {before : Option Token} {more : List Token}
    {s : List Char} (h : Layout before (Node.tokensEach ns ++ more) s)
    (hmore : FollowsCondition more)
    (hdepth : groups.length + Node.nestingEach ns ≤ limits.maxDepth) :
    ∃ last rest, Layout (some last) more rest ∧
      ReadsOn limits groups nodes (ns.reverse ++ nodes) s rest := by
  match hns with
  | .one (n := n) hn =>
    rw [Node.tokensEach, Node.tokensEach, List.append_nil] at h
    rw [Node.nestingEach] at hdepth
    exact readsOn_condition hn limits groups nodes h hmore (by omega)
  | @IsExpression.join n ns k hn hs =>
    rw [Node.tokensEach, Node.tokensEach, Node.tokens, List.append_assoc, List.append_assoc,
      List.singleton_append] at h
    rw [Node.nestingEach, Node.nestingEach] at hdepth
    -- First the condition in front, then the connective, then all the rest.
    obtain ⟨last, s₁, hs₁, hreads₁⟩ := readsOn_condition hn limits groups nodes h
      (fun u hu => .inr ⟨k, by simpa using hu.symm⟩) (by omega)
    obtain ⟨lexeme, s₂, hw, hs₂, hskip⟩ := hs₁.exists_lexeme (Token.isInked_connective k)
    obtain ⟨last, rest, hrest, hreads₂⟩ := readsOn_expression hs limits groups
      (.connective k :: n :: nodes) hs₂ hmore (by omega)
    refine ⟨last, rest, hrest, fun unread hunread => ?_⟩
    obtain ⟨unread₁, hunread₁, hrun₁⟩ := hreads₁ unread hunread
    obtain ⟨unread₂, hunread₂, hrun₂⟩ := hreads₂ s₂ rfl
    refine ⟨unread₂, hunread₂, ?_⟩
    have hword : ∀ c ∈ s₂.head?, isNameChar c = false := by
      refine fun c hc => isNameChar_eq_false_of_not_bare (hs₂.head_not_bare ?_ c hc)
      obtain ⟨t, ts, heq, -, -, hblank⟩ := tokens_of_isExpression hs
      intro u hu
      rw [heq] at hu
      obtain rfl : t = u := by simpa using hu
      exact hblank k
    cases hw with
    | connective hk =>
      rw [hrun₁, State.run_of_step (State.step_connective (hunread₁.trans hskip) hk hword), hrun₂]
      simp

end

/-- A text that is not blank is read as the nodes that a run over it comes to. -/
theorem parseWithin_of_run {limits : Limits} {text : String} {nodes : List Node}
    (hne : skipBlanks text.toList ≠ []) (hrun : (State.start text.toList).run limits = .ok nodes)
    (hlength : byteLength text.toList ≤ limits.maxLength) :
    Query.parseWithin limits text = .ok ⟨nodes⟩ := by
  unfold Query.parseWithin readNodes
  rw [if_neg (Nat.not_lt.2 hlength), List.isEmpty_eq_false_iff.2 hne, hrun]
  rfl

/-- A fault that a run over it finds is a fault of the text. -/
theorem parseWithin_of_run_error {limits : Limits} {text : String} {f : Fault}
    (hne : skipBlanks text.toList ≠ []) (hrun : (State.start text.toList).run limits = .error f)
    (hlength : byteLength text.toList ≤ limits.maxLength) :
    Query.parseWithin limits text = .error (f.locate text.toList) := by
  unfold Query.parseWithin readNodes
  rw [if_neg (Nat.not_lt.2 hlength), List.isEmpty_eq_false_iff.2 hne, hrun]
  rfl

/-- **Every spelling of a well-formed query is read as that query**, if it is within the limits. -/
theorem parseWithin_of_spelling {limits : Limits} {q : Query} {text : String} (hq : q.WellFormed)
    (h : q.Spelling text) (hdepth : q.nesting ≤ limits.maxDepth)
    (hlength : byteLength text.toList ≤ limits.maxLength) :
    Query.parseWithin limits text = .ok q := by
  -- There is a first token, so that the text is not taken for a blank one.
  obtain ⟨t, ts, heq, hink, -, -⟩ := tokens_of_isExpression hq
  have hne : skipBlanks text.toList ≠ [] := by
    rw [Query.Spelling, Query.tokens, heq] at h
    obtain ⟨lexeme, rest, hw, -, hskip⟩ := h.exists_lexeme hink
    obtain ⟨c, r, rfl, -⟩ := hink _ hw
    rw [hskip]
    exact List.cons_ne_nil _ _
  rw [Query.Spelling, Query.tokens, ← List.append_nil (Node.tokensEach _)] at h
  obtain ⟨last, rest, hrest, hreads⟩ := readsOn_expression hq limits [] [] h nofun
    (by simpa [Query.nesting] using hdepth)
  obtain ⟨unread, hunread, hrun⟩ := hreads text.toList rfl
  have hend : skipBlanks unread = [] := by
    cases hrest with
    | done hb => rw [hunread, skipBlanks_eq_nil hb]
  refine parseWithin_of_run hne ?_ hlength
  rw [State.start, hrun, State.run_of_done (State.step_end hend), List.append_nil,
    List.reverse_reverse]

end FilterQuery
