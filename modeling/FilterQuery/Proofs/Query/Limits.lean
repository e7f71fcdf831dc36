/-
The limits of the reader are guards and nothing more.

Reading within narrow limits either ends at one of them or comes to what reading within wider limits
comes to, the same query or the same fault at the same place. So two runs over one text are followed
side by side: a step asks for the limit on depth only where it opens a group, and as long as there
is room the steps are the same.

Where there is no room, the place can be told from the text alone. A reader that knows nothing but
quotes and parentheses goes through the characters one by one (`Place.next`), and the parenthesis
that is blamed is the first that it finds inside as many open ones as the limit allows. That the two
readers agree on where they are is because a statement, in whatever spelling, leaves the second
where it was: what it has of parentheses is in quotes, and its quotes are closed.
-/
import FilterQuery.Proofs.Query.Shape
import FilterQuery.Proofs.Text.Bytes

set_option autoImplicit false

namespace FilterQuery

open Text (skipBlanks)

/-! ## Places in a text -/

/-- Where a place in a text is, as to quotes and parentheses. -/
inductive Place where
  /-- Outside quotes, inside so many open parentheses. -/
  | outside (depth : Nat)
  | quoted (depth : Nat)
  /-- In quotes, behind a backslash that belongs to what comes next. -/
  | escaped (depth : Nat)
deriving DecidableEq, Repr

/-- The place behind one more character. -/
def Place.next : Place → Char → Place
  | outside depth, '(' => outside (depth + 1)
  | outside depth, ')' => outside (depth - 1)
  | outside depth, '"' => quoted depth
  | outside depth, _ => outside depth
  | quoted depth, '"' => outside depth
  | quoted depth, '\\' => escaped depth
  | quoted depth, _ => quoted depth
  | escaped depth, _ => quoted depth

/-- The place behind the beginning of a text. -/
def placeAfter (before : List Char) : Place :=
  before.foldl Place.next (.outside 0)

/-- `OpensFirst level text before`: behind `before` the text has an opening parenthesis, outside
quotes and inside `level` open ones, and it is the first of that kind. -/
structure OpensFirst (level : Nat) (text before : List Char) : Prop where
  opens : ∃ after, text = before ++ '(' :: after
  place : placeAfter before = .outside level
  first : ∀ earlier after, text = earlier ++ '(' :: after → earlier.length < before.length →
    placeAfter earlier ≠ .outside level

/-! ## Passing from place to place -/

/-- `Passes level p s p'`: the text `s` leads from the place `p` to the place `p'`, and none of its
opening parentheses is outside quotes and inside `level` open ones. -/
structure Passes (level : Nat) (p : Place) (s : List Char) (p' : Place) : Prop where
  place : s.foldl Place.next p = p'
  below : ∀ before after, s = before ++ '(' :: after →
    before.foldl Place.next p ≠ .outside level

section Passing

variable {level depth : Nat} {p p' p'' : Place} {s t : List Char}

theorem passes_nil (level : Nat) (p : Place) : Passes level p [] p :=
  ⟨rfl, fun before after h => by cases before <;> cases h⟩

theorem passes_cons_iff {c : Char} :
    Passes level p (c :: s) p' ↔ (c = '(' → p ≠ .outside level) ∧ Passes level (p.next c) s p' := by
  constructor
  · rintro ⟨hplace, hbelow⟩
    refine ⟨?_, hplace, fun before after h => hbelow (c :: before) after (congrArg (c :: ·) h)⟩
    rintro rfl
    exact hbelow [] s rfl
  · rintro ⟨hopening, hplace, hbelow⟩
    refine ⟨hplace, fun before after h => ?_⟩
    cases before with
    | nil => exact hopening (List.cons.inj h).1
    | cons b before =>
      obtain ⟨rfl, hs⟩ := List.cons.inj h
      exact hbelow before after hs

/-- In quotes a parenthesis is a character like any other. -/
theorem passes_cons_of_ne (c : Char) (hp : p ≠ .outside level) (h : Passes level (p.next c) s p') :
    Passes level p (c :: s) p' :=
  passes_cons_iff.2 ⟨fun _ => hp, h⟩

theorem Passes.append (h : Passes level p s p') (h' : Passes level p' t p'') :
    Passes level p (s ++ t) p'' := by
  induction s generalizing p with
  | nil => rwa [← h.place] at h'
  | cons c s ih =>
    obtain ⟨hopening, hs⟩ := passes_cons_iff.1 h
    exact passes_cons_iff.2 ⟨hopening, ih hs⟩

/-- Outside quotes a text that has neither quotes nor parentheses leads nowhere else. -/
theorem passes_of_forall (level depth : Nat)
    (hs : ∀ c ∈ s, c ≠ '(' ∧ c ≠ ')' ∧ c ≠ '"') :
    Passes level (.outside depth) s (.outside depth) := by
  induction s with
  | nil => exact passes_nil level _
  | cons c s ih =>
    obtain ⟨⟨hopening, hclosing, hquote⟩, hrest⟩ := List.forall_mem_cons.1 hs
    have hnext : (Place.outside depth).next c = .outside depth := by
      unfold Place.next
      split <;> simp_all
    refine passes_cons_iff.2 ⟨fun h => absurd h hopening, ?_⟩
    rw [hnext]
    exact ih hrest

theorem passes_blanks (level depth : Nat) (hs : IsBlankText s) :
    Passes level (.outside depth) s (.outside depth) := by
  refine passes_of_forall level depth fun c hc => ⟨?_, ?_, ?_⟩
  all_goals
    rintro rfl
    exact absurd (hs _ hc) (by decide)

theorem passes_bare (level depth : Nat) (hs : ∀ c ∈ s, isBareChar c = true) :
    Passes level (.outside depth) s (.outside depth) := by
  refine passes_of_forall level depth fun c hc => ⟨?_, ?_, ?_⟩
  all_goals
    rintro rfl
    exact absurd (hs _ hc) (by decide)

/-- What is written between quotes does not lead out of them. -/
theorem passes_quoting (level depth : Nat) {text : List Char} (h : Quoting text s) :
    Passes level (.quoted depth) s (.quoted depth) := by
  have hplain {c : Char} (hc : Text.needsEscape c = false) :
      (Place.quoted depth).next c = .quoted depth := by
    unfold Place.next
    split <;> simp_all [Text.needsEscape]
  induction h with
  | nil => exact passes_nil level _
  | plain hc _ ih =>
    refine passes_cons_of_ne _ (by simp) ?_
    rwa [hplain hc]
  | escaped _ _ ih =>
    exact passes_cons_of_ne _ (by simp) (passes_cons_of_ne _ (by simp [Place.next]) ih)
  | loneBackslash hc _ ih =>
    -- The character behind the backslash is the same by itself and behind the backslash.
    obtain ⟨-, hrest⟩ := passes_cons_iff.1 ih
    rw [hplain hc] at hrest
    exact passes_cons_of_ne _ (by simp) (passes_cons_of_ne _ (by simp [Place.next]) hrest)

end Passing

/-! ## Tokens -/

/-- Does the token, in all of its spellings, lead back to where it begins? -/
def Token.KeepsPlace (t : Token) : Prop :=
  ∀ (s : List Char) (level depth : Nat), t.Writes s →
    Passes level (.outside depth) s (.outside depth)

theorem keepsPlace_name {name : String} (hname : isName name = true) :
    (Token.name name).KeepsPlace := by
  rintro s level depth ⟨⟩
  obtain ⟨c, r, hs, hc, hr, -⟩ := isName_iff.1 hname
  refine passes_bare level depth fun x hx => isBareChar_of_isNameChar ?_
  rw [hs] at hx
  rcases List.mem_cons.1 hx with rfl | hx
  · exact isNameChar_of_isNameStart hc
  · exact hr x hx

theorem keepsPlace_bang : Token.bang.KeepsPlace := by
  rintro s level depth ⟨⟩
  exact passes_of_forall level depth (List.forall_mem_singleton.2 (by decide))

theorem keepsPlace_operator (op : Operator) : (Token.operator op).KeepsPlace := by
  intro s level depth hs
  have hall : ∀ op ∈ Operator.all, ∀ symbol ∈ op.spellings,
      symbol.toList.all (fun c => decide (c ≠ '(' ∧ c ≠ ')' ∧ c ≠ '"')) = true := by decide
  cases hs with
  | operator hsymbol =>
    have hsymbolChars := hall op (by cases op <;> decide) _ hsymbol
    exact passes_of_forall level depth fun c hc =>
      of_decide_eq_true (List.all_eq_true.1 hsymbolChars c hc)

theorem keepsPlace_quoted (text : String) : (Token.quoted text).KeepsPlace := by
  intro s level depth hs
  cases hs with
  | quoted hquoting =>
    refine passes_cons_iff.2 ⟨nofun, (passes_quoting level depth hquoting).append ?_⟩
    exact passes_cons_iff.2 ⟨nofun, passes_nil level _⟩

theorem keepsPlace_literal {v : Literal} (hv : v.WellFormed) : v.token.KeepsPlace := by
  cases v with
  | quoted text => exact keepsPlace_quoted text
  | bare | null =>
    intro s level depth hs
    exact passes_bare level depth (bareLiteral_of_writes hv hs rfl).2.1

theorem keepsPlace_connective (k : Connective) : (Token.connective k).KeepsPlace := by
  intro s level depth hs
  cases hs with
  | connective hspells =>
    have halpha : ∀ c ∈ s, c.isAlpha = true := isAlpha_of_spells hspells (by cases k <;> decide)
    exact passes_bare level depth fun c hc =>
      isBareChar_of_isNameChar (isNameChar_of_isAlpha (halpha c hc))

theorem keepsPlace_of_mem_tokens {s : Statement} (hs : s.WellFormed) :
    ∀ t ∈ s.tokens, t.KeepsPlace := by
  cases s with
  | comparison name op v =>
    have hall : ∀ t ∈ [Token.name name, .operator op, v.token], t.KeepsPlace := by
      simpa using ⟨keepsPlace_name hs.1, keepsPlace_operator op, keepsPlace_literal hs.2⟩
    exact hall
  | flag name negated =>
    cases negated with
    | false => exact List.forall_mem_singleton.2 (keepsPlace_name hs)
    | true =>
      have hall : ∀ t ∈ [Token.bang, .name name], t.KeepsPlace := by
        simpa using ⟨keepsPlace_bang, keepsPlace_name hs⟩
      exact hall
  | freetext text => exact List.forall_mem_singleton.2 (keepsPlace_quoted text)

/-- A layout of such tokens leads back to where it begins. -/
theorem Layout.passes {before : Option Token} {ts : List Token} {s : List Char}
    (h : Layout before ts s) (hts : ∀ t ∈ ts, t.KeepsPlace) (level depth : Nat) :
    Passes level (.outside depth) s (.outside depth) := by
  induction h with
  | done hb => exact passes_blanks level depth hb
  | token hb _ ht _ ih =>
    obtain ⟨hfirst, hrest⟩ := List.forall_mem_cons.1 hts
    exact (passes_blanks level depth hb).append ((hfirst _ level depth ht).append (ih hrest))

/-- **Reading a statement takes a text that leads back to where it begins.** -/
theorem passes_of_readStatement {s unread : List Char} {st : Statement}
    (h : readStatement (skipBlanks s) = .ok (st, unread)) (level depth : Nat) :
    ∃ taken rest, s = taken ++ rest ∧ skipBlanks rest = skipBlanks unread ∧
      Passes level (.outside depth) taken (.outside depth) := by
  obtain ⟨hst, taken, last, rest, hs, hskip, -, hlays⟩ := layout_of_readStatement h none nofun
  have hlayout : Layout none (st.tokens ++ []) (taken ++ []) := hlays [] [] (.done isBlankText_nil)
  rw [List.append_nil, List.append_nil] at hlayout
  exact ⟨taken, rest, hs, hskip, hlayout.passes (keepsPlace_of_mem_tokens hst) level depth⟩

/-! ## Steps -/

namespace State

variable {narrow wide : Limits} {st next : State} {s : List Char}

/-- **Each step leads to the place where the reader stands**, which the number of its open groups
tells, and on the way opens no group beyond the limit. -/
theorem passes_of_step (h : st.step narrow = .ok (.go next))
    (hs : skipBlanks s = skipBlanks st.unread) :
    ∃ taken rest, s = taken ++ rest ∧ skipBlanks rest = skipBlanks next.unread ∧
      Passes narrow.maxDepth (.outside st.groups.length) taken (.outside next.groups.length) := by
  obtain ⟨blanks, hb, hsplit⟩ := exists_blanks s
  have hblanks := passes_blanks narrow.maxDepth st.groups.length hb
  rw [hs] at hsplit
  cases goes_of_step h with
  | @opening groups nodes unread r heq hroom =>
    refine ⟨blanks ++ ['('], r, ?_, (skipBlanks_skipBlanks r).symm, hblanks.append ?_⟩
    · rw [List.append_assoc, hsplit]
      exact congrArg (blanks ++ ·) heq
    · refine passes_cons_iff.2 ⟨fun _ hplace => ?_, passes_nil _ _⟩
      exact Nat.ne_of_lt hroom (Place.outside.inj hplace)
  | @statement groups nodes unread rest statement hst =>
    have hread : readStatement (skipBlanks s) = .ok (statement, rest) := by rw [hs]; exact hst
    exact passes_of_readStatement hread narrow.maxDepth groups.length
  | @closing g groups nodes unread r heq =>
    refine ⟨blanks ++ [')'], r, ?_, rfl, hblanks.append ?_⟩
    · rw [List.append_assoc, hsplit]
      exact congrArg (blanks ++ ·) heq
    · exact passes_cons_iff.2 ⟨nofun, passes_nil _ _⟩
  | @connective groups nodes unread rest k hk =>
    obtain ⟨w, hw, heq, -⟩ := Connective.exists_spelling_of_read? hk
    refine ⟨blanks ++ w, rest, ?_, rfl, hblanks.append ?_⟩
    · rw [List.append_assoc, hsplit]
      exact congrArg (blanks ++ ·) heq
    · exact keepsPlace_connective k w _ _ (.connective hw)

/-- **A step within narrow limits is a step within wider ones**, unless it would open a group and
there is no room for it. -/
theorem step_within (hdepth : narrow.maxDepth ≤ wide.maxDepth) (st : State) :
    (∃ r, skipBlanks st.unread = '(' :: r ∧ narrow.maxDepth ≤ st.groups.length ∧
      st.step narrow = .error ⟨.tooDeep narrow.maxDepth, '(' :: r⟩) ∨
    st.step wide = st.step narrow := by
  obtain ⟨expected, groups, nodes, unread⟩ := st
  cases expected with
  | continuation => exact .inr rfl
  | condition =>
    simp only [step, stepCondition]
    split
    · rename_i r hr
      by_cases hroom : groups.length < narrow.maxDepth
      · -- There is room within both limits.
        right
        simp only [openGroup, if_neg (Nat.not_le.2 hroom),
          if_neg (Nat.not_le.2 (Nat.lt_of_lt_of_le hroom hdepth))]
      · left
        have hfull := Nat.le_of_not_lt hroom
        exact ⟨r, hr, hfull, by simp only [openGroup, if_pos hfull]⟩
    · exact .inr rfl

/-- Within the limit on depth a step stays within it. -/
theorem length_groups_le_of_step (h : st.step narrow = .ok (.go next))
    (hst : st.groups.length ≤ narrow.maxDepth) : next.groups.length ≤ narrow.maxDepth := by
  cases goes_of_step h with
  | opening _ hroom => exact hroom
  | statement => exact hst
  | closing => exact Nat.le_of_succ_le hst
  | connective => exact hst

/-! ## Runs -/

/-- **A run within narrow limits is a run within wider ones**, unless it ends at the first
parenthesis for which there is no room. -/
theorem run_within (hdepth : narrow.maxDepth ≤ wide.maxDepth)
    (hst : st.groups.length ≤ narrow.maxDepth) (hs : skipBlanks s = skipBlanks st.unread) :
    (∃ taken r, s = taken ++ '(' :: r ∧
      Passes narrow.maxDepth (.outside st.groups.length) taken (.outside narrow.maxDepth) ∧
      st.run narrow = .error ⟨.tooDeep narrow.maxDepth, '(' :: r⟩) ∨
    st.run wide = st.run narrow := by
  fun_induction State.run narrow st generalizing s with
  | case1 st f hstep =>
    obtain ⟨r, hr, hfull, hdeep⟩ | hsame := step_within hdepth st
    · left
      obtain rfl := Except.error.inj (hstep.symm.trans hdeep)
      obtain ⟨blanks, hb, hsplit⟩ := exists_blanks s
      rw [hs, hr] at hsplit
      have hplace : st.groups.length = narrow.maxDepth := Nat.le_antisymm hst hfull
      refine ⟨blanks, r, hsplit, ?_, rfl⟩
      rw [hplace]
      exact passes_blanks narrow.maxDepth narrow.maxDepth hb
    · exact .inr (run_of_error (hsame.trans hstep))
  | case2 st nodes hstep =>
    right
    obtain ⟨r, -, -, hdeep⟩ | hsame := step_within hdepth st
    · cases hstep.symm.trans hdeep
    · exact run_of_done (hsame.trans hstep)
  | case3 st next hstep ih =>
    obtain ⟨r, -, -, hdeep⟩ | hsame := step_within hdepth st
    · cases hstep.symm.trans hdeep
    · obtain ⟨taken, rest, rfl, hrest, hpasses⟩ := passes_of_step hstep hs
      obtain ⟨taken', r, rfl, hpasses', hdeep⟩ | hrun :=
        ih (length_groups_le_of_step hstep hst) hrest
      · exact .inl ⟨taken ++ taken', r, (List.append_assoc _ _ _).symm,
          hpasses.append hpasses', hdeep⟩
      · exact .inr ((run_of_step (hsame.trans hstep)).trans hrun)

end State

/-! ## Whole texts -/

/-- A text that leads to a parenthesis for which there is no room has the first such parenthesis
there. -/
theorem Passes.opensFirst {level : Nat} {before after : List Char}
    (h : Passes level (.outside 0) before (.outside level)) :
    OpensFirst level (before ++ '(' :: after) before where
  opens := ⟨after, rfl⟩
  place := h.place
  first := by
    intro earlier after' heq hlength
    -- What is earlier is followed by its parenthesis within `before`.
    obtain ⟨more, rfl, hmore⟩ | ⟨more, rfl, hmore⟩ := List.append_eq_append_iff.1 heq
    · simp only [List.length_append] at hlength
      omega
    · cases more with
      | nil => simp at hlength
      | cons c more =>
        obtain ⟨rfl, -⟩ := List.cons.inj hmore
        exact h.below earlier more rfl

/-- **Reading within narrow limits is reading within wider ones**, unless it ends at a limit: at
that on length, or at the first parenthesis for which there is no room. -/
theorem parseWithin_within {narrow wide : Limits} (hdepth : narrow.maxDepth ≤ wide.maxDepth)
    (hlength : narrow.maxLength ≤ wide.maxLength) (text : String) :
    (narrow.maxLength < byteLength text.toList ∧
      Query.parseWithin narrow text = .error ⟨.tooLong narrow.maxLength, narrow.maxLength⟩) ∨
    (∃ before, OpensFirst narrow.maxDepth text.toList before ∧
      Query.parseWithin narrow text = .error ⟨.tooDeep narrow.maxDepth, byteLength before⟩) ∨
    Query.parseWithin wide text = Query.parseWithin narrow text := by
  by_cases hfits : byteLength text.toList ≤ narrow.maxLength
  · right
    have hwide := Nat.not_lt.2 (Nat.le_trans hfits hlength)
    have hnarrow := Nat.not_lt.2 hfits
    by_cases hblank : skipBlanks text.toList = []
    · right
      simp only [Query.parseWithin, readNodes, hblank, if_neg hwide, if_neg hnarrow,
        List.isEmpty_nil, if_true]
    · have hstart : skipBlanks text.toList = skipBlanks (State.start text.toList).unread := rfl
      obtain ⟨before, r, htext, hpasses, hrun⟩ | hsame :=
        State.run_within hdepth (Nat.zero_le _) hstart
      · left
        refine ⟨before, htext ▸ hpasses.opensFirst, ?_⟩
        rw [parseWithin_of_run_error hblank hrun hfits, Fault.locate, htext, byteLength_append,
          Nat.add_sub_cancel]
      · right
        simp only [Query.parseWithin, readNodes, if_neg hwide, if_neg hnarrow,
          List.isEmpty_eq_false_iff.2 hblank, Bool.false_eq_true, if_false, hsame]
  · left
    have hlong := Nat.lt_of_not_le hfits
    exact ⟨hlong, by simp only [Query.parseWithin, if_pos hlong]⟩

/-- What is read within wide limits is read within narrow ones, if it keeps to them. -/
theorem parseWithin_of_nesting_le {narrow wide : Limits} {text : String} {q : Query}
    (h : Query.parseWithin wide text = .ok q) (hnesting : q.nesting ≤ narrow.maxDepth)
    (hfits : byteLength text.toList ≤ narrow.maxLength) : Query.parseWithin narrow text = .ok q := by
  obtain ⟨hnodes, hblank⟩ | ⟨hwf, -⟩ := isExpression_of_parseWithin h
  · obtain ⟨nodes⟩ := q
    obtain rfl : nodes = [] := hnodes
    simp only [Query.parseWithin, readNodes, skipBlanks_eq_nil hblank,
      if_neg (Nat.not_lt.2 hfits), List.isEmpty_nil, if_true]
  · obtain ⟨-, hspelling, -, -⟩ := spelling_of_parseWithin h hwf.ne_nil
    exact parseWithin_of_spelling hwf hspelling hnesting hfits

/-- What is read is nested no deeper than the limit, also if it is nothing. -/
theorem nesting_le_of_parseWithin {limits : Limits} {text : String} {q : Query}
    (h : Query.parseWithin limits text = .ok q) : q.nesting ≤ limits.maxDepth := by
  by_cases hnodes : q.nodes = []
  · rw [Query.nesting, hnodes]
    exact Nat.zero_le _
  · exact (spelling_of_parseWithin h hnodes).2.2.1

/-- **The limits are guards and nothing more.** Reading within narrow limits that does not end at
one of them comes to what reading within wider limits comes to. A query that is read within the
wider limits, of a text of which the narrow ones allow the length, is read within those, too, unless
it is nested too deeply for them. Then the fault is that, and it is blamed on the parenthesis, the
first outside quotes, that opens one level more than there may be. -/
theorem Query.limits_only_guard {narrow wide : Limits} (hdepth : narrow.maxDepth ≤ wide.maxDepth)
    (hlength : narrow.maxLength ≤ wide.maxLength) (text : String) :
    ((∀ limit position, Query.parseWithin narrow text ≠ .error ⟨.tooLong limit, position⟩) →
      (∀ limit position, Query.parseWithin narrow text ≠ .error ⟨.tooDeep limit, position⟩) →
      Query.parseWithin wide text = Query.parseWithin narrow text) ∧
    ∀ q, Query.parseWithin wide text = .ok q → byteLength text.toList ≤ narrow.maxLength →
      (q.nesting ≤ narrow.maxDepth → Query.parseWithin narrow text = .ok q) ∧
      (narrow.maxDepth < q.nesting → ∃ before, OpensFirst narrow.maxDepth text.toList before ∧
        Query.parseWithin narrow text = .error ⟨.tooDeep narrow.maxDepth, byteLength before⟩) := by
  have hcases := parseWithin_within hdepth hlength text
  constructor
  · intro hnotLong hnotDeep
    obtain ⟨-, hlong⟩ | ⟨before, -, hdeep⟩ | hsame := hcases
    · exact absurd hlong (hnotLong _ _)
    · exact absurd hdeep (hnotDeep _ _)
    · exact hsame
  · intro q hq hfits
    refine ⟨fun hnesting => parseWithin_of_nesting_le hq hnesting hfits, fun hnesting => ?_⟩
    obtain ⟨hlong, -⟩ | hdeep | hsame := hcases
    · exact absurd hfits (Nat.not_le.2 hlong)
    · exact hdeep
    · -- Read within the narrow limits, it would not be nested more deeply than they allow.
      have hle := nesting_le_of_parseWithin (hsame.symm.trans hq)
      exact absurd hle (Nat.not_le.2 hnesting)

/-- Parentheses in quotes do not count, and neither do those of a group that has been left. A fault
that is no limit's is the same within both limits. -/
theorem Query.limits_only_guard_siblings :
    let narrow : Limits := ⟨1, 40⟩
    let wide : Limits := ⟨2, 50⟩
    let text := "t=\"((\" or (a) and (b or (\")\"))"
    let q : Query := ⟨[.statement (.comparison "t" .eq (.quoted "((")), .connective .or,
      .group [.statement (.flag "a" false)], .connective .and,
      .group [.statement (.flag "b" false), .connective .or,
        .group [.statement (.freetext ")")]]]⟩
    (narrow.maxDepth ≤ wide.maxDepth ∧ narrow.maxLength ≤ wide.maxLength) ∧
    (Query.parseWithin narrow "(a) or (" = .error ⟨.expectedStatement, 8⟩ ∧
      Query.parseWithin wide "(a) or (" = .error ⟨.expectedStatement, 8⟩) ∧
    (Query.parseWithin wide text = .ok q ∧ byteLength text.toList ≤ narrow.maxLength ∧
      narrow.maxDepth < q.nesting) ∧
    Query.parseWithin narrow text = .error ⟨.tooDeep 1, 24⟩ ∧
    ∃ before, OpensFirst 1 text.toList before ∧ byteLength before = 24 := by
  intro narrow wide text q
  have hdepth : narrow.maxDepth ≤ wide.maxDepth := by decide
  have hlength : narrow.maxLength ≤ wide.maxLength := by decide
  have hfault : Query.parseWithin narrow "(a) or (" = .error ⟨.expectedStatement, 8⟩ :=
    error?_eq_some_iff.1 (by decide +kernel)
  have hread : Query.parseWithin wide text = .ok q := eq_ok_of_toOption (by decide +kernel)
  have hdeep : Query.parseWithin narrow text = .error ⟨.tooDeep 1, 24⟩ :=
    error?_eq_some_iff.1 (by decide +kernel)
  have hfits : byteLength text.toList ≤ narrow.maxLength := by decide +kernel
  have hnesting : narrow.maxDepth < q.nesting := by decide +kernel
  obtain ⟨hsame, -⟩ := Query.limits_only_guard hdepth hlength "(a) or ("
  have hfault' := hsame (by simp [hfault]) (by simp [hfault])
  obtain ⟨-, hguard⟩ := Query.limits_only_guard hdepth hlength text
  obtain ⟨before, hopens, herror⟩ := (hguard q hread hfits).2 hnesting
  have hposition : byteLength before = 24 := by
    have := Except.error.inj (herror.symm.trans hdeep)
    exact congrArg ParseError.position this
  exact ⟨⟨hdepth, hlength⟩, ⟨hfault, hfault'.trans hfault⟩, ⟨hread, hfits, hnesting⟩, hdeep, before,
    hopens, hposition⟩

end FilterQuery
