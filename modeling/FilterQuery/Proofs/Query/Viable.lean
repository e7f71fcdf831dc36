/-
Where a fault is blamed on, the text was still the beginning of a query.

A position in an error message is of use if everything in front of it may stand as it is: then what
is wrong begins there. The reader blames faults on places of many kinds, on the next character, on
the beginning of a quote, of a reserved word or of a group that is left open, behind blanks or at
the end of the text. For all of them the text up to there can be completed to a query, within the
same limit on depth, so the main statement is one about every fault.

What has been read of the text at some point writes the tokens of the nodes read so far
(`State.HasRead`), in front of whatever may follow them. So it is enough to complete the tokens. A
quoted text may stand wherever a condition or a value is expected, since it never needs a blank
before it, a name may stand behind an exclamation mark, and then the groups that are open are
closed. An open group keeps where it began for the fault that it is not closed, so the same is known
of the beginnings of all open groups.
-/
import FilterQuery.Proofs.Query.Soundness
import FilterQuery.Proofs.Results
import FilterQuery.Proofs.Text.Bytes

set_option autoImplicit false

namespace FilterQuery

open Text (skipBlanks)

variable {limits : Limits} {text : List Char}

/-! ## Completing a text -/

/-- Can something be written behind the text that makes it a query, of groups at most `depth`
deep? -/
def IsViable (depth : Nat) (s : List Char) : Prop :=
  ∃ (suffix : List Char) (q : Query),
    q.WellFormed ∧ q.nesting ≤ depth ∧ Layout none q.tokens (s ++ suffix)

/-- What begins a text that can be completed can be completed. -/
theorem IsViable.of_append {depth : Nat} {s t : List Char} (h : IsViable depth (s ++ t)) :
    IsViable depth s := by
  obtain ⟨suffix, q, hq, hdepth, hlayout⟩ := h
  exact ⟨t ++ suffix, q, hq, hdepth, by rwa [← List.append_assoc]⟩

/-- **A text that can be completed is accepted with something behind it**, if it may be as long as
that. -/
theorem IsViable.parseWithin {depth : Nat} {before : String} (h : IsViable depth before.toList) :
    ∃ (suffix : String) (q : Query), q.WellFormed ∧ ∀ maxLength,
      byteLength (before ++ suffix).toList ≤ maxLength →
        Query.parseWithin ⟨depth, maxLength⟩ (before ++ suffix) = .ok q := by
  obtain ⟨suffix, q, hq, hdepth, hlayout⟩ := h
  refine ⟨String.ofList suffix, q, hq, fun maxLength hlength => ?_⟩
  refine parseWithin_of_spelling hq ?_ hdepth hlength
  rwa [Query.Spelling, String.toList_append, String.toList_ofList]

/-- Closing parentheses may follow anything, with blanks before them. -/
theorem layout_closings (before : Option Token) (n : Nat) {blanks : List Char}
    (hb : IsBlankText blanks) :
    Layout before (List.replicate n .closing) (blanks ++ List.replicate n ')') := by
  induction n generalizing before blanks with
  | zero =>
    rw [List.replicate_zero, List.replicate_zero, List.append_nil]
    exact .done hb
  | succ n ih =>
    rw [List.replicate_succ, List.replicate_succ]
    have hrest : Layout (some .closing) (List.replicate n .closing) (List.replicate n ')') :=
      ih _ isBlankText_nil
    have hclosing : Lays before (blanks ++ [')']) [.closing] (some .closing) :=
      lays_sign before hb rfl .closing
    simpa using hclosing _ _ hrest

/-- Where a condition has been read, closing the open groups completes an expression. -/
theorem State.IsSound.exists_closed {st : State} (h : st.IsSound limits)
    (hst : st.expected = .continuation) :
    ∃ ns, IsExpression ns ∧ Node.nestingEach ns ≤ limits.maxDepth ∧
      Node.tokensEach ns = st.tokens ++ List.replicate st.groups.length .closing := by
  obtain ⟨expected, groups, nodes, unread⟩ := st
  obtain rfl : expected = .continuation := hst
  induction groups generalizing nodes unread with
  | nil =>
    refine ⟨nodes.reverse, h.isExpression rfl, ?_, by simp [State.tokens, tokensBefore]⟩
    rw [nestingEach_reverse]
    exact h.depth
  | cons g gs ih =>
    -- The innermost group is closed, and the others after it.
    obtain ⟨ns, hns, hdepth, htokens⟩ := ih _ _ (h.closeGroup unread)
    refine ⟨ns, hns, hdepth, ?_⟩
    rw [htokens, List.length_cons, List.replicate_succ]
    simp [State.tokens, tokensBefore, tokensEach_append, Node.tokensEach, Node.tokens]

/-! ## What has been read -/

/-- The text up to some point writes the tokens that have been read. Of the blanks behind it some
may have been skipped already. -/
def State.HasRead (text : List Char) (st : State) : Prop :=
  LaysOut none text st.tokens st.unread

/-- The same where each open group begins. -/
def GroupsRead (text : List Char) : List OpenGroup → Prop
  | [] => True
  | g :: gs =>
    (∃ unread, skipBlanks unread = g.start ∧
      State.HasRead text ⟨.condition, gs, g.before, unread⟩) ∧ GroupsRead text gs

namespace State

variable {st next : State}

theorem hasRead_start (text : List Char) : HasRead text (start text) :=
  ⟨[], none, text, rfl, rfl, nofun, .nil none⟩

/-- **Each step reads on.** -/
theorem HasRead.step (h : st.HasRead text) (hstep : st.step limits = .ok (.go next)) :
    next.HasRead text := by
  obtain ⟨read, last, rest, rfl, hskip, hends, hlays⟩ := h
  obtain ⟨new, htokens, hnew⟩ := laysOut_of_step hstep hskip hends
  rw [HasRead, htokens]
  exact .prepend hlays hnew

/-- Where a group begins, all in front of it has been read. -/
theorem HasRead.groups_step (h : st.HasRead text) (hgroups : GroupsRead text st.groups)
    (hstep : st.step limits = .ok (.go next)) : GroupsRead text next.groups := by
  cases goes_of_step hstep with
  | opening hs => exact ⟨⟨_, hs, h⟩, hgroups⟩
  | statement | connective => exact hgroups
  | closing => exact hgroups.2

end State

/-! ## Completing what has been read -/

/-- A quoted text may stand behind anything. -/
theorem lays_emptyText (before : Option Token) {blanks : List Char} (hb : IsBlankText blanks) :
    Lays before (blanks ++ ['"', '"']) [.quoted ""] (some (.quoted "")) :=
  lays_sign before hb rfl (.quoted (s := []) .nil)

namespace State.IsSound

variable {st : State} {read blanks : List Char} {last : Option Token}

/-- Behind a condition the open groups may be closed. -/
theorem isViable_continuation (h : st.IsSound limits) (hst : st.expected = .continuation)
    (hread : Lays none read st.tokens last) (hb : IsBlankText blanks) :
    IsViable limits.maxDepth (read ++ blanks) := by
  obtain ⟨ns, hns, hdepth, htokens⟩ := h.exists_closed hst
  have hclosings := layout_closings last st.groups.length hb
  refine ⟨List.replicate st.groups.length ')', ⟨ns⟩, hns, hdepth, ?_⟩
  rw [Query.tokens, htokens, List.append_assoc]
  exact hread _ _ hclosings

/-- Where a condition is expected, the beginning of a statement may stand. -/
theorem isViable_statement (h : st.IsSound limits) (hst : st.expected = .condition)
    (hread : Lays none read st.tokens last) {s : Statement} (hs : s.WellFormed)
    {taken rest : List Char} {last' : Option Token}
    (hlays : Lays last (taken ++ rest) s.tokens last') :
    IsViable limits.maxDepth (read ++ taken) := by
  have hdepth : (Node.statement s).nesting + st.groups.length ≤ limits.maxDepth := by
    rw [Node.nesting]
    exact Nat.le_trans (by omega) h.depth
  have hsound := h.condition hst (.statement hs) hdepth []
  have hread' := hread.append hlays
  rw [show s.tokens = (Node.statement s).tokens from rfl,
    ← State.tokens_cons st (.statement s) .continuation []] at hread'
  have hviable := hsound.isViable_continuation rfl hread' isBlankText_nil
  rw [List.append_nil, ← List.append_assoc] at hviable
  exact hviable.of_append

/-- **What has been read can be completed**, with blanks behind it. Where a condition is expected, a
search for text may stand. -/
theorem isViable (h : st.IsSound limits) (hread : Lays none read st.tokens last)
    (hb : IsBlankText blanks) : IsViable limits.maxDepth (read ++ blanks) := by
  cases hst : st.expected with
  | condition =>
    exact h.isViable_statement hst hread (s := .freetext "") trivial (lays_emptyText last hb)
  | continuation => exact h.isViable_continuation hst hread hb

end State.IsSound

/-! ## Faults in a statement -/

/-- A quote that is not closed is blamed on its beginning. -/
theorem unread_of_readQuotedText {s : List Char} {f : Fault} (h : readQuotedText s = .error f) :
    f.unread = s := by
  unfold readQuotedText at h
  split at h
  · simp at h
  · rw [← Except.error.inj h]

/-- What is no name is blamed on its beginning. -/
theorem unread_of_readName {s : List Char} {f : Fault} (h : readName s = .error f) :
    f.unread = s := by
  unfold readName at h
  split at h
  · rw [← Except.error.inj h]
  · split at h
    · dsimp only at h
      split at h
      · rw [← Except.error.inj h]
      · simp at h
    · rw [← Except.error.inj h]

/-- What is no value is blamed on its beginning, behind the blanks before it. -/
theorem unread_of_readValue {s : List Char} {f : Fault} (h : readValue s = .error f) :
    f.unread = skipBlanks s := by
  unfold readValue at h
  split at h
  · rename_i r heq
    rw [heq]
    exact unread_of_readQuotedText (eq_error_of_map_eq_error h)
  · split at h
    · rw [← Except.error.inj h]
    · simp at h

/-- Behind a name only a value can be at fault, and an operator stands before it. -/
theorem exists_comparison_of_error {name : String} {s : List Char} {f : Fault}
    (h : readComparison name s = .error f) :
    ∃ taken op, s = taken ++ f.unread ∧
      Lays (some (.name name)) (taken ++ ['"', '"']) [.operator op, .quoted ""]
        (some (.quoted "")) := by
  unfold readComparison at h
  split at h
  · rename_i op r hop
    obtain ⟨symbol, hsymbol, hskip⟩ := exists_symbol_of_read? hop
    obtain ⟨blanks, hb, hs⟩ := exists_blanks s
    obtain ⟨blanks', hb', hr⟩ := exists_blanks r
    have hunread := unread_of_readValue (eq_error_of_map_eq_error h)
    refine ⟨(blanks ++ symbol.toList) ++ blanks', op, ?_, ?_⟩
    · rw [hunread, List.append_assoc, List.append_assoc, ← hr, ← hskip]
      exact hs
    · have hsign : Lays (some (.name name)) (blanks ++ symbol.toList) [.operator op]
          (some (.operator op)) :=
        lays_sign _ hb rfl (.operator hsymbol)
      rw [List.append_assoc]
      exact hsign.append (lays_emptyText _ hb')
  · simp at h

/-- In front of `unread`, `s` is the beginning of a statement that may stand behind `before`. -/
def BeginsStatement (before : Option Token) (s unread : List Char) : Prop :=
  ∃ (taken rest : List Char) (st : Statement) (last : Option Token),
    s = taken ++ unread ∧ st.WellFormed ∧ Lays before (taken ++ rest) st.tokens last

/-- **What is read of a statement before it is at fault is the beginning of another one.** -/
theorem beginsStatement_of_error {s : List Char} {f : Fault}
    (h : readStatement (skipBlanks s) = .error f) {before : Option Token}
    (hends : EndsBefore before s) : BeginsStatement before s f.unread := by
  obtain ⟨blanks, hb, hs⟩ := exists_blanks s
  -- Most faults are blamed on where the statement begins, and there a search for text may stand.
  have hbeginning (hunread : f.unread = skipBlanks s) : BeginsStatement before s f.unread := by
    refine ⟨blanks, ['"', '"'], .freetext "", _, ?_, trivial, lays_emptyText before hb⟩
    rw [hunread]
    exact hs
  generalize hread : skipBlanks s = t at h hs hbeginning
  unfold readStatement at h
  split at h
  · exact hbeginning (by rw [← Except.error.inj h])
  · exact hbeginning (unread_of_readQuotedText (eq_error_of_map_eq_error h))
  · -- Behind an exclamation mark a name may stand.
    rename_i r
    have hunread := unread_of_readName (eq_error_of_map_eq_error h)
    obtain ⟨blanks', hb', hr⟩ := exists_blanks r
    refine ⟨(blanks ++ ['!']) ++ blanks', ['a'], .flag "a" true, some (.name "a"), ?_,
      show isName "a" = true by decide, ?_⟩
    · rw [hunread, List.append_assoc, ← hr]
      simpa using hs
    · have hbang : Lays before (blanks ++ ['!']) [.bang] (some .bang) :=
        lays_sign before hb rfl .bang
      have hname : Lays (some .bang) (blanks' ++ ['a']) [.name "a"] (some (.name "a")) :=
        lays_token hb' (by simp [Token.needsBlank]) (.name "a")
      rw [List.append_assoc]
      exact hbang.append hname
  · rename_i c r _ _
    split at h
    · cases hname : readName (c :: r) with
      | error f' =>
        rw [hname] at h
        obtain rfl := Except.error.inj h
        exact hbeginning (unread_of_readName hname)
      | ok p =>
        -- The name is read, and what is at fault is the value that it is compared with.
        obtain ⟨name, rest⟩ := p
        rw [hname] at h
        obtain ⟨hn, heq, -⟩ := eq_append_of_readName hname
        obtain ⟨taken, op, hrest, hlays⟩ := exists_comparison_of_error h
        rw [heq] at hs
        have hgap := (hs ▸ hends).ne_nil (t := .name name) fun _ => exists_nameChar_of_isName hn
        refine ⟨(blanks ++ name.toList) ++ taken, ['"', '"'], .comparison name op (.quoted ""),
          some (.quoted ""), ?_, ⟨hn, trivial⟩, ?_⟩
        · rw [List.append_assoc, List.append_assoc, ← hrest]
          exact hs
        · rw [List.append_assoc]
          exact (lays_token hb hgap (.name name)).append hlays
    · exact hbeginning (by rw [← Except.error.inj h])

/-! ## Faults in a query -/

/-- The text in front of the place that a fault is blamed on can be completed. -/
def BlamedRightly (limits : Limits) (text : List Char) (f : Fault) : Prop :=
  ∃ before, text = before ++ f.unread ∧ IsViable limits.maxDepth before

section Steps

variable {st : State} {f : Fault}

/-- A fault that is blamed on what comes next, behind blanks, is blamed rightly. -/
theorem State.IsSound.blamedRightly (h : st.IsSound limits) (hread : st.HasRead text)
    (hf : f.unread = skipBlanks st.unread) : BlamedRightly limits text f := by
  obtain ⟨read, last, rest, rfl, hskip, -, hlays⟩ := hread
  obtain ⟨blanks, hb, hrest⟩ := exists_blanks rest
  refine ⟨read ++ blanks, ?_, h.isViable hlays hb⟩
  rw [hf, ← hskip, List.append_assoc, ← hrest]

/-- An empty group is blamed on the parenthesis that closes it, behind the one that opens it. Had
something else come, the group would have been entered. -/
theorem blamedRightly_emptyGroup {groups : List OpenGroup} {nodes : List Node}
    {unread r : List Char} (h : State.IsSound limits ⟨.condition, groups, nodes, unread⟩)
    (hread : State.HasRead text ⟨.condition, groups, nodes, unread⟩)
    (hs : skipBlanks unread = '(' :: r) (hroom : groups.length < limits.maxDepth)
    (hf : f.unread = skipBlanks r) : BlamedRightly limits text f := by
  obtain ⟨read, last, rest, rfl, hskip, -, hlays⟩ := hread
  obtain ⟨blanks, hb, hrest⟩ := exists_blanks rest
  obtain ⟨blanks', hb', hr⟩ := exists_blanks r
  have hentered : Lays none (read ++ (blanks ++ ['(']))
      (State.tokens ⟨.condition, ⟨nodes, '(' :: r⟩ :: groups, [], r⟩) (some .opening) := by
    have hopening := hlays.append (lays_sign last hb rfl .opening)
    simpa [State.tokens, tokensBefore, Node.tokensEach] using hopening
  refine ⟨_, ?_, (h.openGroup hroom _ r).isViable hentered hb'⟩
  rw [hf, List.append_assoc, ← hr, List.append_assoc, List.append_assoc, List.singleton_append,
    ← hs, ← hskip, ← hrest]

/-- **A fault in a step is blamed rightly.** -/
theorem State.IsSound.blamedRightly_of_step (h : st.IsSound limits) (hread : st.HasRead text)
    (hgroups : GroupsRead text st.groups) (hstep : st.step limits = .error f) :
    BlamedRightly limits text f := by
  obtain ⟨expected, groups, nodes, unread⟩ := st
  unfold State.step at hstep
  cases expected with
  | condition =>
    simp only [State.stepCondition] at hstep
    split at hstep
    · rename_i r hs
      unfold State.openGroup at hstep
      split at hstep
      · -- Groups are too deep: a search for text could have stood there.
        refine h.blamedRightly hread ?_
        rw [← Except.error.inj hstep]
        exact hs.symm
      · rename_i hroom
        split at hstep
        · rename_i r' hr
          refine blamedRightly_emptyGroup h hread hs (Nat.lt_of_not_le hroom) ?_
          rw [← Except.error.inj hstep]
          exact hr.symm
        · simp at hstep
    · obtain ⟨read, last, rest, rfl, hskip, hends, hlays⟩ := hread
      have hstatement := eq_error_of_map_eq_error hstep
      rw [← hskip] at hstatement
      obtain ⟨taken, more, s, last', rfl, hs, hnew⟩ := beginsStatement_of_error hstatement hends
      exact ⟨read ++ taken, (List.append_assoc _ _ _).symm, h.isViable_statement rfl hlays hs hnew⟩
  | continuation =>
    simp only [State.stepContinuation] at hstep
    split at hstep
    · -- A group that is left open is blamed on where it begins.
      cases groups with
      | nil => simp [State.finish] at hstep
      | cons g gs =>
        obtain ⟨⟨unread', hstart, hread'⟩, -⟩ := hgroups
        refine (h.beforeGroup unread').blamedRightly hread' ?_
        rw [← Except.error.inj hstep]
        exact hstart.symm
    · rename_i r hs
      cases groups with
      | cons g gs => simp [State.closeGroup] at hstep
      | nil =>
        refine h.blamedRightly hread ?_
        rw [← Except.error.inj hstep]
        exact hs.symm
    · split at hstep
      · simp at hstep
      · refine h.blamedRightly hread ?_
        rw [← Except.error.inj hstep]

/-- **So is a fault in a run.** -/
theorem State.IsSound.blamedRightly_of_run (h : st.IsSound limits) (hread : st.HasRead text)
    (hgroups : GroupsRead text st.groups) (hrun : st.run limits = .error f) :
    BlamedRightly limits text f := by
  fun_induction State.run limits st with
  | case1 st f' hstep =>
    obtain rfl := Except.error.inj hrun
    exact h.blamedRightly_of_step hread hgroups hstep
  | case2 => simp at hrun
  | case3 st next hstep ih =>
    exact ih (h.step hstep) (hread.step hstep) (hread.groups_step hgroups hstep) hrun

end Steps

/-- Whatever is wrong with a text but its length is blamed rightly. -/
theorem blamedRightly_of_readNodes {f : Fault} (h : readNodes limits text = .error f) :
    BlamedRightly limits text f := by
  unfold readNodes at h
  split at h
  · simp at h
  · exact (State.isSound_start limits text).blamedRightly_of_run (State.hasRead_start text) trivial h

/-- **Where a fault is blamed on, the text was still the beginning of a query.**

The position that is reported, unless the text is too long, is within the text and not inside a
character. Up to there the text can be completed: with something else behind it, it is accepted as
a query within the same limit on depth, by every limit on length that leaves room for it. -/
theorem Query.viable_before_fault {limits : Limits} {text : String} {e : ParseError}
    (h : Query.parseWithin limits text = .error e) (hcause : ∀ limit, e.cause ≠ .tooLong limit) :
    e.position ≤ text.utf8ByteSize ∧ String.Pos.Raw.IsValid text ⟨e.position⟩ ∧
      ∃ (before rest suffix : String) (q : Query), text = before ++ rest ∧
        before.utf8ByteSize = e.position ∧ q.WellFormed ∧ ∀ maxLength,
          byteLength (before ++ suffix).toList ≤ maxLength →
            Query.parseWithin ⟨limits.maxDepth, maxLength⟩ (before ++ suffix) = .ok q := by
  unfold Query.parseWithin at h
  dsimp only at h
  split at h
  · rw [← Except.error.inj h] at hcause
    exact absurd rfl (hcause limits.maxLength)
  · split at h
    · simp at h
    · rename_i f hf
      obtain rfl := Except.error.inj h
      obtain ⟨before, htext, hviable⟩ := blamedRightly_of_readNodes hf
      have hposition : (f.locate text.toList).position = byteLength before := by
        rw [Fault.locate, htext, byteLength_append, Nat.add_sub_cancel]
      have hsplit : text = String.ofList before ++ String.ofList f.unread := by
        rw [← String.ofList_append, ← htext, String.ofList_toList]
      have hbefore : IsViable limits.maxDepth (String.ofList before).toList := by
        rwa [String.toList_ofList]
      obtain ⟨suffix, q, hq, hparse⟩ := hbefore.parseWithin
      rw [hposition]
      refine ⟨?_, ?_, String.ofList before, String.ofList f.unread, suffix, q, hsplit,
        (byteLength_eq_utf8ByteSize before).symm, hq, hparse⟩
      · rw [hsplit, String.utf8ByteSize_append, byteLength_eq_utf8ByteSize]
        exact Nat.le_add_right _ _
      · rw [Text.isValid_iff_dropBytes?, htext, Text.dropBytes?_append]
        rfl

/-- Two groups are left open, and the innermost is blamed where it begins, behind characters of two
bytes. -/
theorem Query.viable_before_fault_open :
    let text := "title=\"gr\u00f6\u00dfe\" or (live and (year>1980"
    Query.parseWithin ⟨2, 60⟩ text = .error ⟨.unclosedGroup, 29⟩ ∧
      29 ≤ text.utf8ByteSize ∧ String.Pos.Raw.IsValid text ⟨29⟩ ∧
      ∃ (before rest suffix : String) (q : Query), text = before ++ rest ∧
        before.utf8ByteSize = 29 ∧ q.WellFormed ∧ ∀ maxLength,
          byteLength (before ++ suffix).toList ≤ maxLength →
            Query.parseWithin ⟨2, maxLength⟩ (before ++ suffix) = .ok q := by
  have hrun : (State.start "title=\"gr\u00f6\u00dfe\" or (live and (year>1980".toList).run ⟨2, 60⟩
      = .error ⟨.unclosedGroup, "(year>1980".toList⟩ := by
    iterate 7 refine (State.run_of_step rfl).trans ?_
    exact State.run_of_error rfl
  have hread : Query.parseWithin ⟨2, 60⟩ "title=\"gr\u00f6\u00dfe\" or (live and (year>1980"
      = .error ⟨.unclosedGroup, 29⟩ :=
    (parseWithin_of_run_error (by decide) hrun (by decide)).trans (congrArg _ (by decide))
  exact ⟨hread, Query.viable_before_fault hread nofun⟩

end FilterQuery
