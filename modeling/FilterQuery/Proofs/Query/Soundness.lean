/-
What is read as a query is a well-formed one, and the text is a layout of it.

Both halves are about a run of the reader, step by step. The first is an invariant: at every point
the nodes of the innermost open group, and those in front of every group that is open, alternate as
far as they go, and none of them is nested too deeply for where it stands (`State.IsSound`). The
second is about the part of the text that a step takes: it writes the tokens of that step in front
of whatever may follow them (`LaysOut`), so from the end of the text to its beginning more and more
of it is a layout. A blank that a layout needs is there because a word was read as far as it went.
-/
import FilterQuery.Proofs.Query.Completeness
import FilterQuery.Proofs.Results

set_option autoImplicit false

namespace FilterQuery

open Text (isBlank skipBlanks)

/-! ## Steps -/

namespace State

/-- The steps that lead on: into a group, behind a statement, out of a group and behind a
connective. -/
inductive Goes (limits : Limits) : State → State → Prop
  | opening {groups : List OpenGroup} {nodes : List Node} {unread r : List Char}
      (hs : skipBlanks unread = '(' :: r) (hroom : groups.length < limits.maxDepth) :
      Goes limits ⟨.condition, groups, nodes, unread⟩
        ⟨.condition, ⟨nodes, '(' :: r⟩ :: groups, [], skipBlanks r⟩
  | statement {groups : List OpenGroup} {nodes : List Node} {unread rest : List Char}
      {s : Statement} (hs : readStatement (skipBlanks unread) = .ok (s, rest)) :
      Goes limits ⟨.condition, groups, nodes, unread⟩
        ⟨.continuation, groups, .statement s :: nodes, rest⟩
  | closing {g : OpenGroup} {groups : List OpenGroup} {nodes : List Node} {unread r : List Char}
      (hs : skipBlanks unread = ')' :: r) :
      Goes limits ⟨.continuation, g :: groups, nodes, unread⟩
        ⟨.continuation, groups, .group nodes.reverse :: g.before, r⟩
  | connective {groups : List OpenGroup} {nodes : List Node} {unread rest : List Char}
      {k : Connective} (hk : Connective.read? (skipBlanks unread) = some (k, rest)) :
      Goes limits ⟨.continuation, groups, nodes, unread⟩
        ⟨.condition, groups, .connective k :: nodes, rest⟩

/-- **A step that leads on is one of the four.** -/
theorem goes_of_step {limits : Limits} {st next : State} (h : st.step limits = .ok (.go next)) :
    Goes limits st next := by
  obtain ⟨expected, groups, nodes, unread⟩ := st
  unfold step at h
  cases expected with
  | condition =>
    simp only [stepCondition] at h
    split at h
    · rename_i r hs
      unfold openGroup at h
      split at h
      · simp at h
      · rename_i hroom
        split at h
        · simp at h
        · obtain rfl := Step.go.inj (Except.ok.inj h)
          exact .opening hs (Nat.lt_of_not_le hroom)
    · obtain ⟨⟨s, rest⟩, hs, hnext⟩ := exists_of_map_eq_ok h
      obtain rfl := Step.go.inj hnext
      exact .statement hs
  | continuation =>
    simp only [stepContinuation] at h
    split at h
    · cases groups <;> simp [finish] at h
    · rename_i r hs
      cases groups with
      | nil => simp [closeGroup] at h
      | cons g gs =>
        obtain rfl := Step.go.inj (Except.ok.inj h)
        exact .closing hs
    · split at h
      · rename_i hk
        obtain rfl := Step.go.inj (Except.ok.inj h)
        exact .connective hk
      · simp at h

end State

/-! ## Layouts from their end -/

/-- Does the token in front of the text, if it is a word, end there? -/
def EndsBefore (before : Option Token) (s : List Char) : Prop :=
  ∀ t ∈ before, t.isWord = true → ∀ c ∈ s.head?, isNameChar c = false

theorem endsBefore_of_not_word {t : Token} (ht : t.isWord = false) (s : List Char) :
    EndsBefore (some t) s := by
  rintro u ⟨⟩ hw
  rw [ht] at hw
  exact absurd hw (by decide)

/-- A blank is only ever needed between two words. -/
theorem Token.isWord_of_needsBlank {u t : Token} (h : u.needsBlank t = true) :
    u.isWord = true ∧ t.isWord = true := by
  cases u <;> cases t <;> simp [needsBlank, isWord] at h ⊢

/-- If a word before a token has ended, there is a blank between them where one is needed. -/
theorem EndsBefore.ne_nil {before : Option Token} {t : Token} {blanks lexeme rest : List Char}
    (hends : EndsBefore before (blanks ++ (lexeme ++ rest)))
    (hword : t.isWord = true → ∃ c r, lexeme = c :: r ∧ isNameChar c = true) :
    ∀ u ∈ before, u.needsBlank t = true → blanks ≠ [] := by
  rintro u hu hblank rfl
  -- Both tokens are words, and the second begins with a character that the first would have taken.
  have hwords := Token.isWord_of_needsBlank hblank
  obtain ⟨c, r, rfl, hc⟩ := hword hwords.2
  have := hends u hu hwords.1 c rfl
  rw [hc] at this
  exact absurd this (by decide)

/-- In front of whatever may follow `last`, `taken` writes the tokens `new` behind `before`. -/
def Lays (before : Option Token) (taken : List Char) (new : List Token) (last : Option Token) :
    Prop :=
  ∀ ts s, Layout last ts s → Layout before (new ++ ts) (taken ++ s)

theorem Lays.nil (before : Option Token) : Lays before [] [] before := fun _ _ h => h

theorem Lays.append {before between last : Option Token} {s t : List Char} {ts us : List Token}
    (h : Lays before s ts between) (h' : Lays between t us last) :
    Lays before (s ++ t) (ts ++ us) last := by
  intro more rest hmore
  rw [List.append_assoc, List.append_assoc]
  exact h _ _ (h' _ _ hmore)

/-- A spelling of a token, with the blanks in front of it. -/
theorem lays_token {before : Option Token} {t : Token} {blanks lexeme : List Char}
    (hb : IsBlankText blanks) (hgap : ∀ u ∈ before, u.needsBlank t = true → blanks ≠ [])
    (ht : t.Writes lexeme) : Lays before (blanks ++ lexeme) [t] (some t) := by
  intro more rest hmore
  rw [List.append_assoc]
  exact .token hb hgap ht hmore

/-- A token that is no word needs no blank in front of it. -/
theorem lays_sign (before : Option Token) {t : Token} {blanks lexeme : List Char}
    (hb : IsBlankText blanks) (hsign : t.isWord = false) (ht : t.Writes lexeme) :
    Lays before (blanks ++ lexeme) [t] (some t) := by
  refine lays_token hb (fun u _ hblank => ?_) ht
  rw [(Token.isWord_of_needsBlank hblank).2] at hsign
  exact absurd hsign (by decide)

/-- A text of which nothing is left without its blanks is blank. -/
theorem isBlankText_of_skipBlanks {s : List Char} (h : skipBlanks s = []) : IsBlankText s := by
  obtain ⟨blanks, hb, hs⟩ := exists_blanks s
  rw [h, List.append_nil] at hs
  rwa [hs]

/-! ## Statements -/

theorem exists_nameChar_of_isName {name : String} (hn : isName name = true) :
    ∃ c r, name.toList = c :: r ∧ isNameChar c = true := by
  obtain ⟨c, r, hs, hc, -, -⟩ := isName_iff.1 hn
  exact ⟨c, r, hs, isNameChar_of_isNameStart hc⟩

/-- Behind `before`, the part of `s` in front of what is unread writes the tokens `new`. Of the blanks
behind it some may have been skipped already. -/
def LaysOut (before : Option Token) (s : List Char) (new : List Token) (unread : List Char) :
    Prop :=
  ∃ taken last rest, s = taken ++ rest ∧ skipBlanks rest = skipBlanks unread ∧
    EndsBefore last rest ∧ Lays before taken new last

/-- More tokens in front of those that are laid out. -/
theorem LaysOut.prepend {before between : Option Token} {taken s unread : List Char}
    {new new' : List Token} (h : Lays before taken new between)
    (h' : LaysOut between s new' unread) : LaysOut before (taken ++ s) (new ++ new') unread := by
  obtain ⟨taken', last, rest, rfl, hskip, hlast, hlays⟩ := h'
  exact ⟨taken ++ taken', last, rest, (List.append_assoc _ _ _).symm, hskip, hlast, h.append hlays⟩

/-- A single token, with the blanks in front of it. -/
theorem laysOut_token {before : Option Token} {t : Token} {s lexeme rest unread : List Char}
    (hs : skipBlanks s = lexeme ++ rest) (ht : t.Writes lexeme)
    (hword : t.isWord = true → ∃ c r, lexeme = c :: r ∧ isNameChar c = true)
    (hends : EndsBefore before s) (hrest : EndsBefore (some t) rest)
    (hskip : skipBlanks rest = skipBlanks unread) : LaysOut before s [t] unread := by
  obtain ⟨blanks, hb, hsplit⟩ := exists_blanks s
  rw [hs] at hsplit
  subst hsplit
  exact ⟨blanks ++ lexeme, some t, rest, (List.append_assoc _ _ _).symm, hskip, hrest,
    lays_token hb (hends.ne_nil hword) ht⟩

/-- What is read after a name is well formed, and the text is a layout of it. -/
theorem layout_of_readComparison {name : String} {s unread : List Char} {st : Statement}
    (hn : isName name = true) (hends : EndsBefore (some (.name name)) s)
    (h : readComparison name s = .ok (st, unread)) :
    st.WellFormed ∧ ∃ new, st.tokens = .name name :: new ∧
      LaysOut (some (.name name)) s new unread := by
  unfold readComparison at h
  split at h
  · rename_i op r hop
    cases hv : readValue r with
    | error f => simp [hv, Except.map] at h
    | ok p =>
      obtain ⟨v, rest⟩ := p
      simp only [hv, Except.map, Except.ok.injEq, Prod.mk.injEq] at h
      obtain ⟨rfl, rfl⟩ := h
      obtain ⟨symbol, hsymbol, hskip⟩ := exists_symbol_of_read? hop
      obtain ⟨hval, blanks, w, hb, hw, rfl, hrest⟩ := exists_spelling_of_readValue hv
      obtain ⟨blanks₀, hb₀, hs⟩ := exists_blanks s
      rw [hskip] at hs
      refine ⟨⟨hn, hval⟩, [.operator op, v.token], rfl, ?_⟩
      -- An operator is no word, so the value needs no blank before it, either.
      have hvalue : LaysOut (some (.operator op)) (blanks ++ (w ++ rest)) [v.token] rest := by
        refine ⟨blanks ++ w, some v.token, rest, (List.append_assoc _ _ _).symm, rfl, ?_,
          lays_token hb (by simp [Token.needsBlank]) hw⟩
        rintro t ⟨⟩ hword c hc
        exact isNameChar_eq_false_of_not_bare (hrest hword c hc)
      rw [hs, ← List.append_assoc]
      exact .prepend (lays_sign _ hb₀ rfl (.operator hsymbol)) hvalue
  · simp only [Except.ok.injEq, Prod.mk.injEq] at h
    obtain ⟨rfl, rfl⟩ := h
    exact ⟨hn, [], rfl, [], some (.name name), s, rfl, (skipBlanks_skipBlanks s).symm, hends,
      .nil _⟩

/-- **What is read as a statement is well formed, and the text is a layout of it.** -/
theorem layout_of_readStatement {s unread : List Char} {st : Statement}
    (h : readStatement (skipBlanks s) = .ok (st, unread)) (before : Option Token)
    (hends : EndsBefore before s) : st.WellFormed ∧ LaysOut before s st.tokens unread := by
  obtain ⟨blanks, hb, hs⟩ := exists_blanks s
  generalize hread : skipBlanks s = t at h hs
  unfold readStatement at h
  split at h
  · simp at h
  · -- A search for text.
    rename_i r
    cases hq : readQuotedText ('"' :: r) with
    | error f => simp [hq, Except.map] at h
    | ok p =>
      obtain ⟨text, rest⟩ := p
      simp only [hq, Except.map, Except.ok.injEq, Prod.mk.injEq] at h
      obtain ⟨rfl, rfl⟩ := h
      obtain ⟨w, hw, rfl⟩ := exists_quoting_of_readQuotedText hq
      have hform : skipBlanks s = '"' :: (w ++ ['"']) ++ rest := by simpa using hread
      exact ⟨trivial, laysOut_token hform (.quoted hw) (by simp [Token.isWord]) hends
        (endsBefore_of_not_word rfl rest) rfl⟩
  · -- A flag with an exclamation mark; blanks may follow the mark.
    rename_i r
    cases hname : readName (skipBlanks r) with
    | error f => simp [hname, Except.map] at h
    | ok p =>
      obtain ⟨name, rest⟩ := p
      simp only [hname, Except.map, Except.ok.injEq, Prod.mk.injEq] at h
      obtain ⟨rfl, rfl⟩ := h
      obtain ⟨hn, hskip, hrest⟩ := eq_append_of_readName hname
      have hlast : EndsBefore (some (.name name)) rest := by
        rintro t ⟨⟩ - c hc
        exact hrest c hc
      have hflag : LaysOut (some .bang) r [.name name] rest :=
        laysOut_token hskip (.name name) (fun _ => exists_nameChar_of_isName hn)
          (endsBefore_of_not_word rfl r) hlast rfl
      refine ⟨hn, ?_⟩
      rw [hs, List.append_cons]
      exact .prepend (lays_sign before hb rfl .bang) hflag
  · -- A name, alone or compared with a value.
    rename_i c r _ _
    split at h
    · cases hname : readName (c :: r) with
      | error f => simp [hname, Except.bind] at h
      | ok p =>
        obtain ⟨name, rest⟩ := p
        simp only [hname, Except.bind] at h
        obtain ⟨hn, heq, hrest⟩ := eq_append_of_readName hname
        have hends₁ : EndsBefore (some (.name name)) rest := by
          rintro t ⟨⟩ - x hx
          exact hrest x hx
        obtain ⟨hst, new, htokens, hnew⟩ := layout_of_readComparison hn hends₁ h
        refine ⟨hst, ?_⟩
        rw [heq] at hs
        rw [hs] at hends ⊢
        rw [htokens, ← List.append_assoc]
        have hgap := hends.ne_nil (t := .name name) fun _ => exists_nameChar_of_isName hn
        exact .prepend (lays_token hb hgap (.name name)) hnew
    · simp at h

/-! ## Tokens read so far -/

theorem tokensEach_append (xs ys : List Node) :
    Node.tokensEach (xs ++ ys) = Node.tokensEach xs ++ Node.tokensEach ys := by
  induction xs with
  | nil => rfl
  | cons x xs ih => rw [List.cons_append, Node.tokensEach, Node.tokensEach, ih, List.append_assoc]

/-- The tokens up to the opening parenthesis of the innermost open group. -/
def tokensBefore : List OpenGroup → List Token
  | [] => []
  | g :: gs => tokensBefore gs ++ (Node.tokensEach g.before.reverse ++ [.opening])

/-- The tokens that have been read. -/
def State.tokens (st : State) : List Token :=
  tokensBefore st.groups ++ Node.tokensEach st.nodes.reverse

theorem State.tokens_cons (st : State) (n : Node) (expected : Expectation) (unread : List Char) :
    State.tokens ⟨expected, st.groups, n :: st.nodes, unread⟩ = st.tokens ++ n.tokens := by
  simp [State.tokens, tokensEach_append, Node.tokensEach]

/-- **Every step takes the tokens that it adds to the nodes**, from a text that is a layout of
them. -/
theorem laysOut_of_step {limits : Limits} {st next : State}
    (h : st.step limits = .ok (.go next)) {before : Option Token} {s : List Char}
    (hs : skipBlanks s = skipBlanks st.unread) (hends : EndsBefore before s) :
    ∃ new, next.tokens = st.tokens ++ new ∧ LaysOut before s new next.unread := by
  cases State.goes_of_step h with
  | @opening groups nodes unread r heq =>
    refine ⟨[.opening], by simp [State.tokens, tokensBefore, Node.tokensEach], ?_⟩
    exact laysOut_token (hs.trans heq) .opening (by simp [Token.isWord]) hends
      (endsBefore_of_not_word rfl r) (skipBlanks_skipBlanks r).symm
  | @statement groups nodes unread rest st hst =>
    rw [← hs] at hst
    refine ⟨st.tokens, ?_, (layout_of_readStatement hst before hends).2⟩
    exact State.tokens_cons ⟨.condition, groups, nodes, unread⟩ (.statement st) _ _
  | @closing g groups nodes unread r heq =>
    refine ⟨[.closing], ?_, ?_⟩
    · simp [State.tokens, tokensBefore, tokensEach_append, Node.tokensEach, Node.tokens]
    · exact laysOut_token (hs.trans heq) .closing (by simp [Token.isWord]) hends
        (endsBefore_of_not_word rfl r) rfl
  | @connective groups nodes unread rest k hk =>
    obtain ⟨w, hw, heq, hrest⟩ := Connective.exists_spelling_of_read? hk
    refine ⟨[.connective k],
      State.tokens_cons ⟨.continuation, groups, nodes, unread⟩ (.connective k) _ _, ?_⟩
    refine laysOut_token (hs.trans heq) (.connective hw) (fun _ => ?_) hends ?_ rfl
    · obtain ⟨c, r, heq, hc⟩ := exists_alpha_of_spells_connective hw
      exact ⟨c, r, heq, isNameChar_of_isAlpha hc⟩
    · rintro t ⟨⟩ - c hc
      exact hrest c hc

/-- The step that ends the text leaves nothing but blanks, and no group open. -/
theorem eq_of_step_done {limits : Limits} {st : State} {nodes : List Node}
    (h : st.step limits = .ok (.done nodes)) :
    st.expected = .continuation ∧ st.groups = [] ∧ nodes = st.nodes.reverse ∧
      skipBlanks st.unread = [] := by
  obtain ⟨expected, groups, read, unread⟩ := st
  unfold State.step at h
  cases expected with
  | condition =>
    simp only [State.stepCondition] at h
    split at h
    · unfold State.openGroup at h
      split at h
      · simp at h
      · split at h <;> simp at h
    · cases hst : readStatement (skipBlanks unread) <;> simp [hst, Except.map] at h
  | continuation =>
    simp only [State.stepContinuation] at h
    split at h
    · rename_i heq
      cases groups with
      | nil =>
        simp only [State.finish, Except.ok.injEq, Step.done.injEq] at h
        exact ⟨rfl, rfl, h.symm, heq⟩
      | cons g gs => simp [State.finish] at h
    · cases groups <;> simp [State.closeGroup] at h
    · split at h <;> simp at h

/-- **The text of a run is a layout** of the tokens of its nodes that had not been read before. -/
theorem layout_of_run {limits : Limits} {st : State} {nodes : List Node}
    (h : st.run limits = .ok nodes) (before : Option Token) (s : List Char)
    (hs : skipBlanks s = skipBlanks st.unread) (hends : EndsBefore before s) :
    ∃ ts, Layout before ts s ∧ Node.tokensEach nodes = st.tokens ++ ts := by
  fun_induction State.run limits st generalizing before s with
  | case1 st f hstep => simp at h
  | case2 st nodes' hstep =>
    obtain rfl := Except.ok.inj h
    obtain ⟨-, hgroups, rfl, hend⟩ := eq_of_step_done hstep
    refine ⟨[], .done (isBlankText_of_skipBlanks (hs.trans hend)), ?_⟩
    rw [State.tokens, hgroups, List.append_nil]
    rfl
  | case3 st next hstep ih =>
    obtain ⟨new, htokens, taken, last, rest, rfl, hskip, hlast, hlays⟩ :=
      laysOut_of_step hstep hs hends
    -- What the step took stands in front of what the rest of the run takes.
    obtain ⟨ts, hts, heq⟩ := ih h _ _ hskip hlast
    refine ⟨new ++ ts, hlays ts rest hts, ?_⟩
    rw [heq, htokens, List.append_assoc]

/-! ## Nodes read so far -/

/-- Two expressions with a connective between them are one expression. -/
theorem IsExpression.append {ns ms : List Node} (h : IsExpression ns) (k : Connective)
    (hms : IsExpression ms) : IsExpression (ns ++ .connective k :: ms) := by
  match h with
  | .one hm => exact .join k hm hms
  | .join k' hm hs => exact .join k' hm (hs.append k hms)

/-- A condition may be added to an expression, after a connective. -/
theorem IsExpression.snoc {ns : List Node} {n : Node} (h : IsExpression ns) (k : Connective)
    (hn : IsCondition n) : IsExpression (ns ++ [.connective k, n]) :=
  h.append k (.one hn)

/-- Nodes, last first, after which a condition stands: none, or an expression and a connective. -/
def AwaitsCondition (nodes : List Node) : Prop :=
  nodes = [] ∨ ∃ k ns, nodes = .connective k :: ns ∧ IsExpression ns.reverse

theorem AwaitsCondition.isExpression {nodes : List Node} (h : AwaitsCondition nodes) {n : Node}
    (hn : IsCondition n) : IsExpression (n :: nodes).reverse := by
  obtain rfl | ⟨k, ns, rfl, hns⟩ := h
  · exact .one hn
  · simpa using hns.snoc k hn

theorem nestingEach_append (xs ys : List Node) :
    Node.nestingEach (xs ++ ys) = max (Node.nestingEach xs) (Node.nestingEach ys) := by
  induction xs with
  | nil => simp [Node.nestingEach]
  | cons x xs ih => rw [List.cons_append, Node.nestingEach, Node.nestingEach, ih, Nat.max_assoc]

theorem nestingEach_reverse (xs : List Node) :
    Node.nestingEach xs.reverse = Node.nestingEach xs := by
  induction xs with
  | nil => rfl
  | cons x xs ih =>
    rw [List.reverse_cons, nestingEach_append, ih, Node.nestingEach, Node.nestingEach,
      Node.nestingEach, Nat.max_zero, Nat.max_comm]

/-- In front of each open group a condition is awaited, and what stands there is within the limit on
depth. -/
def GroupsSound (limits : Limits) : List OpenGroup → Prop
  | [] => True
  | g :: gs =>
    AwaitsCondition g.before ∧ Node.nestingEach g.before + gs.length ≤ limits.maxDepth ∧
      GroupsSound limits gs

/-- What holds of the reader at every step. -/
structure State.IsSound (limits : Limits) (st : State) : Prop where
  awaits : st.expected = .condition → AwaitsCondition st.nodes
  isExpression : st.expected = .continuation → IsExpression st.nodes.reverse
  depth : Node.nestingEach st.nodes + st.groups.length ≤ limits.maxDepth
  groups : GroupsSound limits st.groups

theorem State.isSound_start (limits : Limits) (s : List Char) : (State.start s).IsSound limits where
  awaits _ := .inl rfl
  isExpression := nofun
  depth := Nat.zero_le _
  groups := trivial

/-- In front of its innermost group a sound reader was sound, whatever was unread there. -/
theorem State.IsSound.beforeGroup {limits : Limits} {expected : Expectation} {g : OpenGroup}
    {groups : List OpenGroup} {nodes : List Node} {unread : List Char}
    (h : State.IsSound limits ⟨expected, g :: groups, nodes, unread⟩) (unread' : List Char) :
    State.IsSound limits ⟨.condition, groups, g.before, unread'⟩ where
  awaits _ := h.groups.1
  isExpression := nofun
  depth := h.groups.2.1
  groups := h.groups.2.2

/-- Reading a condition keeps the reader sound. -/
theorem State.IsSound.condition {limits : Limits} {st : State} (h : st.IsSound limits)
    (hst : st.expected = .condition) {n : Node} (hn : IsCondition n)
    (hdepth : n.nesting + st.groups.length ≤ limits.maxDepth) (unread : List Char) :
    State.IsSound limits ⟨.continuation, st.groups, n :: st.nodes, unread⟩ where
  awaits := nofun
  isExpression _ := (h.awaits hst).isExpression hn
  depth := by
    have := h.depth
    simp only [Node.nestingEach]
    omega
  groups := h.groups

/-- Entering a group within the limit on depth does, too. -/
theorem State.IsSound.openGroup {limits : Limits} {groups : List OpenGroup} {nodes : List Node}
    {unread : List Char} (h : State.IsSound limits ⟨.condition, groups, nodes, unread⟩)
    (hroom : groups.length < limits.maxDepth) (start inner : List Char) :
    State.IsSound limits ⟨.condition, ⟨nodes, start⟩ :: groups, [], inner⟩ where
  awaits _ := .inl rfl
  isExpression := nofun
  depth := by
    simp only [Node.nestingEach, List.length_cons]
    omega
  groups := ⟨h.awaits rfl, h.depth, h.groups⟩

/-- So does leaving one: it is one more condition in front of it. -/
theorem State.IsSound.closeGroup {limits : Limits} {g : OpenGroup} {groups : List OpenGroup}
    {nodes : List Node} {unread : List Char}
    (h : State.IsSound limits ⟨.continuation, g :: groups, nodes, unread⟩) (rest : List Char) :
    State.IsSound limits ⟨.continuation, groups, .group nodes.reverse :: g.before, rest⟩ := by
  refine (h.beforeGroup rest).condition rfl (.group (h.isExpression rfl)) ?_ rest
  have hdepth := h.depth
  rw [Node.nesting, nestingEach_reverse]
  simp only [List.length_cons] at hdepth ⊢
  omega

/-- **Every step keeps the reader sound.** -/
theorem State.IsSound.step {limits : Limits} {st next : State} (h : st.IsSound limits)
    (hstep : st.step limits = .ok (.go next)) : next.IsSound limits := by
  have hdepth := h.depth
  cases State.goes_of_step hstep with
  | opening hs hroom => exact h.openGroup hroom _ _
  | statement hs =>
    refine h.condition rfl (.statement (layout_of_readStatement hs none nofun).1) ?_ _
    rw [Node.nesting]
    dsimp only at hdepth ⊢
    omega
  | closing hs => exact h.closeGroup _
  | connective hk =>
    refine ⟨fun _ => .inr ⟨_, _, rfl, h.isExpression rfl⟩, nofun, ?_, h.groups⟩
    simp only [Node.nestingEach, Node.nesting] at hdepth ⊢
    omega

/-- **A run comes to an expression** that is within the limit on depth. -/
theorem State.IsSound.run {limits : Limits} {st : State} {nodes : List Node}
    (h : st.IsSound limits) (hrun : st.run limits = .ok nodes) :
    IsExpression nodes ∧ Node.nestingEach nodes ≤ limits.maxDepth := by
  fun_induction State.run limits st with
  | case1 st f hstep => simp at hrun
  | case2 st nodes' hstep =>
    obtain rfl := Except.ok.inj hrun
    obtain ⟨hexpected, -, rfl, -⟩ := eq_of_step_done hstep
    refine ⟨h.isExpression hexpected, ?_⟩
    rw [nestingEach_reverse]
    have := h.depth
    omega
  | case3 st next hstep ih => exact ih (h.step hstep) hrun

/-! ## Whole queries -/

/-- **What is read as a query is well formed and within the limits, and the text spells it**, unless
nothing but blanks is read. -/
theorem spelling_of_parseWithin {limits : Limits} {text : String} {q : Query}
    (h : Query.parseWithin limits text = .ok q) (hq : q.nodes ≠ []) :
    q.WellFormed ∧ q.Spelling text ∧ q.nesting ≤ limits.maxDepth ∧
      byteLength text.toList ≤ limits.maxLength := by
  unfold Query.parseWithin at h
  dsimp only at h
  split at h
  · simp at h
  · rename_i hlength
    unfold readNodes at h
    split at h
    · rename_i nodes hnodes
      obtain rfl := Except.ok.inj h
      split at hnodes
      · exact absurd (Except.ok.inj hnodes).symm hq
      · obtain ⟨hwf, hdepth⟩ := (State.isSound_start limits text.toList).run hnodes
        obtain ⟨ts, hts, heq⟩ := layout_of_run hnodes none text.toList rfl nofun
        refine ⟨hwf, ?_, hdepth, Nat.le_of_not_lt hlength⟩
        rw [Query.Spelling, Query.tokens, heq]
        exact hts
    · simp at h

end FilterQuery
