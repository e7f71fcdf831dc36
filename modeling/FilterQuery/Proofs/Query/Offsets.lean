/-
Reading by offsets never breaks down.

Each function of the reader by offsets (`Cursor`) is the function of the reader of queries, seen
through `located`: given the offset of a place, it comes to the offset of the place where the other
comes to, or to the fault that the other finds. So what is unread is at every moment the end of the
text, and every cut is made in front of a character. Only where a word or the suffix for keys is
looked for by its number of bytes may the offset be inside a character, and there it is made sure
before the cut that it is not.
-/
import FilterQuery.Proofs.Compile
import FilterQuery.Proofs.Query.Cursor

set_option autoImplicit false

namespace FilterQuery.Cursor

open Text (dropBytes? takeBytes? offset dropBytes?_offset offset_cons offset_append)

/-- What is read in front of a place, as it is read in front of the offset of the place. -/
def located {α : Type} (text : List Char) : Except Fault (α × List Char) → Except Stop (α × Nat)
  | .ok (x, unread) => .ok (x, offset text unread)
  | .error f => .error (.fault (f.locate text))

variable {text s rest : List Char}

/-- A text that is not written as this character and a rest does not begin with it. -/
theorem head?_ne_of_forall {c : Char} (h : ∀ r, s = c :: r → False) :
    ¬ (s.head? == some c) = true := by
  intro hhead
  obtain ⟨r, hr⟩ := List.head?_eq_some_iff.1 (beq_iff_eq.1 hhead)
  exact h r hr

/-! ## Cuts -/

theorem after_append (s rest : List Char) : after (s ++ rest) (byteLength s) = .ok rest := by
  rw [after, Text.dropBytes?_append]

theorem before_append (s rest : List Char) : before (s ++ rest) (byteLength s) = .ok s := by
  rw [before, Text.takeBytes?_append]

theorem after_offset (h : s <:+ text) : after text (offset text s) = .ok s := by
  rw [after, dropBytes?_offset h]

/-- Between the offsets of two places is what was read between them. -/
theorem between_offset (h : s ++ rest <:+ text) :
    between text (offset text (s ++ rest)) (offset text rest) = .ok s := by
  rw [between, offset_append h, if_pos (Nat.le_add_right _ _), after_offset h, Except.bind,
    Nat.add_sub_cancel_left, before_append]

/-! ## Characters one by one -/

theorem skipWhile_nil {p : Char → Bool} {pos : Nat} (h : dropBytes? text pos = some []) :
    skipWhile text p pos = .ok pos := by
  rw [skipWhile]
  split <;> simp_all

theorem skipWhile_cons {p : Char → Bool} {pos : Nat} {c : Char}
    (h : dropBytes? text pos = some (c :: rest)) :
    skipWhile text p pos = if p c then skipWhile text p (pos + c.utf8Size) else .ok pos := by
  rw [skipWhile]
  split <;> simp_all

/-- Characters are passed as far as they have the property. -/
theorem skipWhile_offset (p : Char → Bool) (h : s <:+ text) :
    skipWhile text p (offset text s) = .ok (offset text (s.dropWhile p)) := by
  induction s with
  | nil => rw [skipWhile_nil (dropBytes?_offset h), List.dropWhile_nil]
  | cons c r ih =>
    rw [skipWhile_cons (dropBytes?_offset h), ← offset_cons h, List.dropWhile_cons]
    split
    · exact ih ((List.suffix_cons c r).trans h)
    · rfl

/-! ## Names -/

theorem suffix_of_readName {name : String} (h : FilterQuery.readName s = .ok (name, rest)) :
    rest <:+ s := by
  obtain ⟨-, heq, -⟩ := eq_append_of_readName h
  exact ⟨_, heq.symm⟩

theorem readName_offset (h : s <:+ text) :
    readName text (offset text s) = located text (FilterQuery.readName s) := by
  rw [readName, after_offset h]
  unfold FilterQuery.readName
  cases s with
  | nil => rfl
  | cons c r =>
    have hr : r <:+ text := (List.suffix_cons c r).trans h
    -- The name is what is between the offset where it begins and the one where it ends.
    have hname : c :: r.takeWhile isNameChar ++ r.dropWhile isNameChar = c :: r := by
      rw [List.cons_append, List.takeWhile_append_dropWhile]
    have hbetween := between_offset (hname.symm ▸ h)
    rw [hname] at hbetween
    dsimp only [Except.bind]
    split
    · rw [← offset_cons h, skipWhile_offset _ hr]
      dsimp only [Except.bind]
      rw [hbetween]
      dsimp only [Except.bind]
      cases reservedWord? (c :: r.takeWhile isNameChar) <;> rfl
    · rfl

/-! ## Quoted texts -/

section Quoted

variable {start : Nat} {read : List Char}

theorem readQuotedFrom_nil (h : [] <:+ text) :
    readQuotedFrom text start read (offset text []) = failAt .unclosedQuote start := by
  have hdrop := dropBytes?_offset h
  rw [readQuotedFrom]
  split <;> simp_all

theorem readQuotedFrom_quote (h : '"' :: rest <:+ text) :
    readQuotedFrom text start read (offset text ('"' :: rest))
      = .ok (String.ofList read.reverse, offset text rest) := by
  have hdrop := dropBytes?_offset h
  have hnext := offset_cons h
  rw [readQuotedFrom]
  split <;> simp_all

/-- An escape is passed with the character that it stands for. -/
theorem readQuotedFrom_escape {d : Char} (h : '\\' :: d :: rest <:+ text)
    (hd : Text.needsEscape d = true) :
    readQuotedFrom text start read (offset text ('\\' :: d :: rest))
      = readQuotedFrom text start (d :: read) (offset text rest) := by
  have hescaped := (List.suffix_cons '\\' (d :: rest)).trans h
  have hdrop := dropBytes?_offset h
  have hdrop' := dropBytes?_offset hescaped
  have hnext := offset_cons h
  have hnext' := offset_cons hescaped
  rw [readQuotedFrom]
  split <;> simp_all

/-- A character that is no escape of anything is passed as itself. -/
theorem readQuotedFrom_cons {c : Char} (h : c :: rest <:+ text) (hquote : c ≠ '"')
    (hescape : c = '\\' → ∀ x ∈ rest.head?, Text.needsEscape x = false) :
    readQuotedFrom text start read (offset text (c :: rest))
      = readQuotedFrom text start (c :: read) (offset text rest) := by
  have hdrop := dropBytes?_offset h
  have hdrop' := dropBytes?_offset ((List.suffix_cons c rest).trans h)
  have hnext := offset_cons h
  rw [readQuotedFrom]
  split
  · simp_all
  · simp_all
  · rename_i heq
    rw [hdrop] at heq
    obtain ⟨rfl, rfl⟩ := List.cons.inj (Option.some.inj heq)
    rw [← hnext, hdrop', if_neg (by simpa using hquote)]
    split
    · -- A backslash, and what comes next does not make an escape of it.
      rename_i hbackslash
      obtain rfl := beq_iff_eq.1 hbackslash
      cases rest with
      | nil => rfl
      | cons d r =>
        dsimp only
        rw [hescape rfl d rfl, if_neg (by decide)]
    · rfl

/-- The rest of a quoted text is read from any place. -/
theorem readQuotedFrom_offset (h : s <:+ text) :
    readQuotedFrom text start read (offset text s) =
      match Text.readQuotedFrom read s with
      | some (quoted, rest) => .ok (String.ofList quoted, offset text rest)
      | none => failAt .unclosedQuote start := by
  fun_induction Text.readQuotedFrom read s with
  | case1 read => exact readQuotedFrom_nil h
  | case2 read r => exact readQuotedFrom_quote h
  | case3 read r ih =>
    rw [readQuotedFrom_escape h (by decide)]
    exact ih (((List.suffix_cons _ r).trans (List.suffix_cons _ _)).trans h)
  | case4 read r ih =>
    rw [readQuotedFrom_escape h (by decide)]
    exact ih (((List.suffix_cons _ r).trans (List.suffix_cons _ _)).trans h)
  | case5 read c r hquote hesc₁ hesc₂ ih =>
    have hescape : c = '\\' → ∀ x ∈ r.head?, Text.needsEscape x = false := by
      rintro rfl x hx
      obtain ⟨r', rfl⟩ := List.head?_eq_some_iff.1 hx
      refine Text.needsEscape_eq_false_iff.2 ⟨?_, ?_⟩
      · rintro rfl
        exact hesc₁ r' rfl rfl
      · rintro rfl
        exact hesc₂ r' rfl rfl
    rw [readQuotedFrom_cons h hquote hescape]
    exact ih ((List.suffix_cons c r).trans h)

end Quoted

theorem suffix_of_readQuotedText {quoted : String}
    (h : FilterQuery.readQuotedText ('"' :: s) = .ok (quoted, rest)) : rest <:+ '"' :: s := by
  obtain ⟨w, -, heq⟩ := exists_quoting_of_readQuotedText h
  refine ⟨'"' :: (w ++ ['"']), ?_⟩
  rw [heq]
  simp

theorem readQuotedText_offset (h : '"' :: s <:+ text) :
    readQuotedText text (offset text ('"' :: s))
      = located text (FilterQuery.readQuotedText ('"' :: s)) := by
  rw [readQuotedText, ← offset_cons h, readQuotedFrom_offset ((List.suffix_cons _ s).trans h),
    FilterQuery.readQuotedText, Text.readQuoted, List.drop_succ_cons, List.drop_zero]
  cases Text.readQuotedFrom [] s <;> rfl

/-! ## Values and operators -/

theorem suffix_of_readValue {v : Literal} (h : FilterQuery.readValue s = .ok (v, rest)) :
    rest <:+ s := by
  obtain ⟨-, blanks, w, -, -, heq, -⟩ := exists_spelling_of_readValue h
  exact ⟨blanks ++ w, by rw [heq, List.append_assoc]⟩

/-- A run that is not empty has a length in bytes. -/
theorem byteLength_pos {run : List Char} (h : run ≠ []) : 0 < byteLength run := by
  obtain ⟨c, r, rfl⟩ := List.exists_cons_of_ne_nil h
  have := c.utf8Size_pos
  rw [byteLength_cons]
  omega

/-- Nothing is passed exactly if the offset stays where it is. -/
theorem readRun_offset (h : s <:+ text) :
    (if offset text s = offset text (s.dropWhile isBareChar) then
        failAt .expectedValue (offset text s)
      else (between text (offset text s) (offset text (s.dropWhile isBareChar))).map fun run =>
        (bareLiteral run, offset text (s.dropWhile isBareChar)))
      = located text (match s.takeWhile isBareChar with
        | [] => .error ⟨.expectedValue, s⟩
        | run => .ok (bareLiteral run, s.dropWhile isBareChar)) := by
  have hrun := List.takeWhile_append_dropWhile (p := isBareChar) (l := s)
  have hsuffix : s.takeWhile isBareChar ++ s.dropWhile isBareChar <:+ text := by rwa [hrun]
  have hstop := offset_append hsuffix
  have hbetween := between_offset hsuffix
  rw [hrun] at hstop hbetween
  rw [hbetween]
  symm
  split
  · rename_i hnone
    rw [hnone, List.nil_append] at hrun
    rw [hrun, if_pos rfl]
    rfl
  · rename_i hsome
    have hpos := byteLength_pos hsome
    rw [if_neg (by omega)]
    rfl

theorem readValue_offset (h : s <:+ text) :
    readValue text (offset text s) = located text (FilterQuery.readValue s) := by
  have hblanks : Text.skipBlanks s <:+ text := (List.dropWhile_suffix _).trans h
  rw [readValue, skipWhile_offset _ h]
  dsimp only [Except.bind]
  rw [← Text.skipBlanks, after_offset hblanks]
  dsimp only
  symm
  unfold FilterQuery.readValue
  split
  · rename_i r heq
    rw [heq] at hblanks ⊢
    rw [if_pos (by rfl), readQuotedText_offset hblanks]
    cases FilterQuery.readQuotedText ('"' :: r) <;> rfl
  · rename_i hquote
    rw [if_neg (head?_ne_of_forall hquote), skipWhile_offset _ hblanks]
    exact (readRun_offset hblanks).symm

theorem suffix_of_readOperator {op : Operator} (h : Operator.read? s = some (op, rest)) :
    rest <:+ s := by
  obtain ⟨symbol, -, heq⟩ := exists_symbol_of_read? h
  exact ⟨_, heq.symm⟩

theorem readOperator_offset (h : s <:+ text) :
    readOperator text (offset text s) =
      .ok ((Operator.read? s).map fun p => (p.1, offset text p.2)) := by
  rw [readOperator, after_offset h]
  cases hread : Operator.read? s with
  | none => simp [Except.map, hread]
  | some p =>
    obtain ⟨symbol, hsymbol⟩ := suffix_of_readOperator hread
    have hlength : byteLength s - byteLength p.2 = byteLength symbol := by
      rw [← hsymbol, byteLength_append, Nat.add_sub_cancel]
    have hoffset := offset_append (hsymbol.symm ▸ h)
    rw [hsymbol] at hoffset
    simp only [Except.map, hread, Option.map_some, hlength, hoffset]

/-! ## Statements -/

theorem suffix_of_readComparison {name : String} {st : Statement}
    (h : FilterQuery.readComparison name s = .ok (st, rest)) : rest <:+ s := by
  have hblanks : Text.skipBlanks s <:+ s := List.dropWhile_suffix _
  unfold FilterQuery.readComparison at h
  split at h
  · rename_i op r hop
    obtain ⟨p, hv, hp⟩ := exists_of_map_eq_ok h
    cases hp
    exact (suffix_of_readValue hv).trans ((suffix_of_readOperator hop).trans hblanks)
  · cases h
    exact hblanks

theorem readComparison_offset (name : String) (h : s <:+ text) :
    readComparison text name (offset text s)
      = located text (FilterQuery.readComparison name s) := by
  have hblanks : Text.skipBlanks s <:+ text := (List.dropWhile_suffix _).trans h
  rw [readComparison, skipWhile_offset _ h]
  dsimp only [Except.bind]
  rw [← Text.skipBlanks, readOperator_offset hblanks, FilterQuery.readComparison]
  cases hop : Operator.read? (Text.skipBlanks s) with
  | none => rfl
  | some p =>
    obtain ⟨op, r⟩ := p
    have hr := (suffix_of_readOperator hop).trans hblanks
    dsimp only [Option.map]
    rw [readValue_offset hr]
    cases FilterQuery.readValue r <;> rfl

theorem suffix_of_readStatement {st : Statement}
    (h : FilterQuery.readStatement s = .ok (st, rest)) : rest <:+ s := by
  unfold FilterQuery.readStatement at h
  split at h
  · simp at h
  · obtain ⟨p, hq, hp⟩ := exists_of_map_eq_ok h
    cases hp
    exact suffix_of_readQuotedText hq
  · rename_i r
    obtain ⟨p, hn, hp⟩ := exists_of_map_eq_ok h
    cases hp
    exact (suffix_of_readName hn).trans
      ((List.dropWhile_suffix _).trans (List.suffix_cons '!' r))
  · split at h
    · obtain ⟨p, hn, hp⟩ := exists_of_bind_eq_ok h
      exact (suffix_of_readComparison hp).trans (suffix_of_readName hn)
    · simp at h

theorem readStatement_offset (h : s <:+ text) :
    readStatement text (offset text s) = located text (FilterQuery.readStatement s) := by
  rw [readStatement, after_offset h]
  dsimp only [Except.bind]
  symm
  unfold FilterQuery.readStatement
  split
  · rfl
  · rename_i r
    dsimp only
    rw [if_pos (by decide), readQuotedText_offset h]
    cases FilterQuery.readQuotedText ('"' :: r) <;> rfl
  · rename_i r
    have hr := (List.suffix_cons '!' r).trans h
    have hblanks : Text.skipBlanks r <:+ text := (List.dropWhile_suffix _).trans hr
    dsimp only
    rw [if_neg (by decide), if_pos (by decide), ← offset_cons h, skipWhile_offset _ hr]
    dsimp only
    rw [← Text.skipBlanks, readName_offset hblanks]
    cases FilterQuery.readName (Text.skipBlanks r) <;> rfl
  · rename_i c r hquote hbang
    have hquote : ¬ (c == '"') = true := by simpa using hquote
    have hbang : ¬ (c == '!') = true := by simpa using hbang
    dsimp only
    rw [if_neg hquote, if_neg hbang]
    split
    · rw [readName_offset h]
      cases hname : FilterQuery.readName (c :: r) with
      | error f => rfl
      | ok p =>
        have hrest := (suffix_of_readName hname).trans h
        exact (readComparison_offset p.1 hrest).symm
    · rfl

/-! ## Words ahead -/

/-- What is spelled where the text can be cut is what is spelled by as many characters, if it is in
ASCII. -/
theorem spells_take {word : String} (hword : word.toList.all (·.toNat < 0x80) = true)
    (hs : spells word s = true) (rest : List Char) :
    word.utf8ByteSize = byteLength s ∧ (s ++ rest).take word.length = s ∧
      (s ++ rest).drop word.length = rest := by
  have hlength := length_of_spells hs
  have hbytes : word.utf8ByteSize = word.length := by
    rw [← String.ofList_toList (s := word), ← byteLength_eq_utf8ByteSize, byteLength_of_ascii,
      String.ofList_toList, String.length_toList]
    exact fun c hc => by simpa using List.all_eq_true.1 hword c hc
  refine ⟨by rw [hbytes, byteLength_of_spells hs hword], ?_, ?_⟩
  · rw [← hlength, List.take_left]
  · rw [← hlength, List.drop_left]

/-- Looking ahead by a number of bytes is looking ahead by as many characters: a spelling of the
word is in ASCII, and in front of anything else the text need not be cut. -/
theorem readWord_offset {word : String} (hword : word.toList.all (·.toNat < 0x80) = true)
    (h : s <:+ text) :
    readWord text word (offset text s) = .ok ((readWord? word s).map (offset text)) := by
  rw [readWord, after_offset h]
  dsimp only [Except.bind]
  by_cases hspelled : ∃ start rest, s = start ++ rest ∧ spells word start = true
  · -- The word is there, in as many bytes as characters, and the text can be cut behind it.
    obtain ⟨start, rest, rfl, hs⟩ := hspelled
    obtain ⟨hbytes, htake, hdrop⟩ := spells_take hword hs rest
    have hguard : (decide (byteLength (start ++ rest) < byteLength start) ||
        (dropBytes? (start ++ rest) (byteLength start)).isNone) = false := by
      rw [Text.dropBytes?_append, byteLength_append]
      simp
    rw [hbytes, hguard, if_neg (by decide), before_append]
    dsimp only
    rw [if_pos hs, after_append, ← offset_append h, readWord?, htake, hdrop, hs, Except.map]
    cases rest.head?.any isNameChar <;> rfl
  · have hnone : readWord? word s = none := by
      refine Option.eq_none_iff_forall_ne_some.2 fun rest hrest => ?_
      obtain ⟨start, hs, heq, -⟩ := exists_spelling_of_readWord? hrest
      exact hspelled ⟨start, rest, heq, hs⟩
    rw [hnone]
    split
    · rfl
    · -- The text can be cut, but what is cut off does not spell the word.
      rename_i hguard
      simp only [Bool.or_eq_true, not_or, Option.isNone_iff_eq_none] at hguard
      obtain ⟨rest, hrest⟩ := Option.ne_none_iff_exists'.1 hguard.2
      obtain ⟨start, rfl, hlength⟩ := Text.exists_of_dropBytes? hrest
      have hs : ¬ spells word start = true := fun hs => hspelled ⟨start, rest, rfl, hs⟩
      rw [← hlength, before_append]
      dsimp only
      rw [if_neg hs]
      rfl

theorem suffix_of_readConnective {k : Connective} (h : Connective.read? s = some (k, rest)) :
    rest <:+ s := by
  obtain ⟨w, -, heq, -⟩ := Connective.exists_spelling_of_read? h
  exact ⟨w, heq.symm⟩

theorem readConnective_offset (h : s <:+ text) :
    readConnective text (offset text s) =
      .ok ((Connective.read? s).map fun p => (p.1, offset text p.2)) := by
  rw [readConnective, readWord_offset (by decide) h, readWord_offset (by decide) h]
  simp only [Connective.read?, List.findSome?_cons, List.findSome?_nil]
  cases readWord? Connective.and.word s with
  | some r => rfl
  | none => cases readWord? Connective.or.word s <;> rfl

/-! ## Steps -/

/-- Where the reader stands, by offsets. -/
def State.ofReader (text : List Char) (st : FilterQuery.State) : State :=
  ⟨st.expected, st.groups.map fun g => ⟨g.before, offset text g.start⟩, st.nodes,
    offset text st.unread⟩

/-- What a step comes to, by offsets. -/
def steppedTo (text : List Char) : Except Fault FilterQuery.Step → Except Stop Step
  | .ok (.go next) => .ok (.go (.ofReader text next))
  | .ok (.done nodes) => .ok (.done nodes)
  | .error f => .error (.fault (f.locate text))

variable {st : FilterQuery.State}

theorem openGroup_offset (limits : Limits) (h : '(' :: s <:+ text) :
    openGroup text limits (.ofReader text st) (offset text ('(' :: s))
      = steppedTo text (st.openGroup limits ('(' :: s) s) := by
  have hs := (List.suffix_cons '(' s).trans h
  have hblanks : Text.skipBlanks s <:+ text := (List.dropWhile_suffix _).trans hs
  have hgroups : (State.ofReader text st).groups.length = st.groups.length := by
    simp [State.ofReader]
  rw [openGroup, hgroups, ← offset_cons h, skipWhile_offset _ hs]
  symm
  unfold FilterQuery.State.openGroup
  split
  · rfl
  · dsimp only [Except.bind]
    rw [← Text.skipBlanks, after_offset hblanks]
    dsimp only
    split
    · rename_i r heq
      rw [heq]
      rfl
    · rename_i hclosing
      rw [if_neg (head?_ne_of_forall hclosing)]
      rfl

theorem stepCondition_offset (limits : Limits) (h : st.unread <:+ text) :
    stepCondition text limits (.ofReader text st) = steppedTo text (st.stepCondition limits) := by
  have hblanks : Text.skipBlanks st.unread <:+ text := (List.dropWhile_suffix _).trans h
  have hpos : (State.ofReader text st).pos = offset text st.unread := rfl
  rw [stepCondition, hpos, skipWhile_offset _ h]
  dsimp only [Except.bind]
  rw [← Text.skipBlanks, after_offset hblanks]
  dsimp only
  symm
  unfold FilterQuery.State.stepCondition
  split
  · rename_i r heq
    rw [heq] at hblanks ⊢
    rw [if_pos (by rfl)]
    exact (openGroup_offset limits hblanks).symm
  · rename_i hopening
    rw [if_neg (head?_ne_of_forall hopening), readStatement_offset hblanks]
    cases FilterQuery.readStatement (Text.skipBlanks st.unread) <;> rfl

theorem finish_offset : finish (.ofReader text st) = steppedTo text st.finish := by
  unfold finish FilterQuery.State.finish State.ofReader
  cases st.groups <;> rfl

theorem closeGroup_offset (h : ')' :: s <:+ text) :
    closeGroup (.ofReader text st) (offset text (')' :: s))
      = steppedTo text (st.closeGroup (')' :: s) s) := by
  unfold closeGroup FilterQuery.State.closeGroup State.ofReader
  rw [← offset_cons h]
  cases st.groups <;> rfl

theorem stepContinuation_offset (h : st.unread <:+ text) :
    stepContinuation text (.ofReader text st) = steppedTo text st.stepContinuation := by
  have hblanks : Text.skipBlanks st.unread <:+ text := (List.dropWhile_suffix _).trans h
  have hpos : (State.ofReader text st).pos = offset text st.unread := rfl
  rw [stepContinuation, hpos, skipWhile_offset _ h]
  dsimp only [Except.bind]
  rw [← Text.skipBlanks, after_offset hblanks]
  dsimp only
  symm
  unfold FilterQuery.State.stepContinuation
  split
  · rename_i heq
    rw [heq, if_pos (by rfl)]
    exact finish_offset.symm
  · rename_i r heq
    rw [heq] at hblanks ⊢
    rw [if_neg (by simp), if_pos (by rfl)]
    exact (closeGroup_offset hblanks).symm
  · rename_i hend hclosing
    have hempty : ¬ (Text.skipBlanks st.unread).isEmpty = true := fun hempty =>
      hend (List.isEmpty_iff.1 hempty)
    rw [if_neg hempty, if_neg (head?_ne_of_forall hclosing), readConnective_offset hblanks]
    cases Connective.read? (Text.skipBlanks st.unread) <;> rfl

/-- **A step by offsets is a step of the reader.** -/
theorem step_offset (limits : Limits) (h : st.unread <:+ text) :
    step text limits (.ofReader text st) = steppedTo text (st.step limits) := by
  have hexpected : (State.ofReader text st).expected = st.expected := rfl
  rw [step, FilterQuery.State.step, hexpected]
  cases st.expected with
  | condition => exact stepCondition_offset limits h
  | continuation => exact stepContinuation_offset h

/-- What a step leaves unread is part of what was unread before it. -/
theorem suffix_of_step {limits : Limits} {next : FilterQuery.State}
    (h : st.step limits = .ok (.go next)) : next.unread <:+ st.unread := by
  have hblanks : Text.skipBlanks st.unread <:+ st.unread := List.dropWhile_suffix _
  refine List.IsSuffix.trans ?_ hblanks
  cases FilterQuery.State.goes_of_step h with
  | opening hs =>
    rw [hs]
    exact (List.dropWhile_suffix _).trans (List.suffix_cons '(' _)
  | statement hs => exact suffix_of_readStatement hs
  | closing hs =>
    rw [hs]
    exact List.suffix_cons ')' _
  | connective hk => exact suffix_of_readConnective hk

/-! ## Runs -/

/-- **Reading on by offsets is reading on**, and as many steps are enough as characters are
unread. -/
theorem run_offset (limits : Limits) (h : st.unread <:+ text) {steps : Nat}
    (hsteps : st.unread.length < steps) :
    run text limits steps (.ofReader text st)
      = (st.run limits).mapError fun f => .fault (f.locate text) := by
  obtain ⟨steps, rfl⟩ : ∃ n, steps = n + 1 := ⟨steps - 1, by omega⟩
  fun_induction FilterQuery.State.run limits st generalizing steps with
  | case1 st f hstep =>
    rw [run, step_offset limits h, hstep]
    rfl
  | case2 st nodes hstep =>
    rw [run, step_offset limits h, hstep]
    rfl
  | case3 st next hstep ih =>
    -- The step has taken a character at least, so one step fewer is enough for the rest.
    have hlength := FilterQuery.State.length_lt_of_step hstep
    obtain ⟨n, rfl⟩ : ∃ n, steps = n + 1 := ⟨steps - 1, by omega⟩
    rw [run, step_offset limits h, hstep]
    exact ih ((suffix_of_step hstep).trans h) n (by omega)

/-- **Reading a query by offsets is reading a query**, and never breaks down. -/
theorem parseWithin_eq (limits : Limits) (text : String) :
    parseWithin limits text = (Query.parseWithin limits text).mapError .fault := by
  have hself : text.toList <:+ text.toList := List.suffix_refl _
  have hblanks : Text.skipBlanks text.toList <:+ text.toList := List.dropWhile_suffix _
  have hskip := skipWhile_offset Text.isBlank hself
  have hunread : (FilterQuery.State.start text.toList).unread <:+ text.toList := hself
  have hrun := run_offset limits hunread (Nat.lt_succ_self _)
  have hstart : State.ofReader text.toList (.start text.toList) = ⟨.condition, [], [], 0⟩ := by
    rw [State.ofReader, FilterQuery.State.start, Text.offset_self]
    rfl
  rw [Text.offset_self, ← Text.skipBlanks] at hskip
  rw [hstart] at hrun
  unfold parseWithin Query.parseWithin
  dsimp only
  split
  · rfl
  · rw [hskip]
    dsimp only [Except.bind]
    rw [after_offset hblanks, readNodes]
    dsimp only
    split
    · rfl
    · have hlength : (FilterQuery.State.start text.toList).unread.length = text.toList.length := rfl
      rw [hlength] at hrun
      rw [hrun]
      cases (FilterQuery.State.start text.toList).run limits <;> rfl

/-! ## Keys -/

/-- **Looking for the suffix for keys by its number of bytes never breaks down**, and finds it where
it is. -/
theorem dropKeySuffix_eq (name : String) :
    dropKeySuffix name = .ok (dropKeySuffix? name) := by
  have hascii : ".pk".toList.all (·.toNat < 0x80) = true := by decide
  have hkey : byteLength keySuffix = 3 := by decide
  have hlength : keySuffix.length = 3 := by decide
  have hspells (s : List Char) : (s.map Char.toLower == keySuffix) = spells ".pk" s := rfl
  unfold dropKeySuffix dropKeySuffix?
  simp only [hkey, hlength, hspells]
  by_cases hsuffix : ∃ base suffix, name.toList = base ++ suffix ∧ spells ".pk" suffix = true
  · obtain ⟨base, suffix, hname, hs⟩ := hsuffix
    have hbytes : byteLength suffix = 3 := byteLength_of_spells hs hascii
    have hchars : suffix.length = 3 := length_of_spells hs
    have hbase : byteLength (base ++ suffix) - 3 = byteLength base := by
      rw [byteLength_append, hbytes, Nat.add_sub_cancel]
    have hstart : (base ++ suffix).length - 3 = base.length := by
      rw [List.length_append, hchars, Nat.add_sub_cancel]
    have hguard : (decide (byteLength (base ++ suffix) < 3) ||
        (dropBytes? (base ++ suffix) (byteLength base)).isNone) = false := by
      rw [Text.dropBytes?_append, byteLength_append, hbytes]
      simp
    have hle : 3 ≤ (base ++ suffix).length := by
      rw [List.length_append, hchars]
      omega
    rw [hname, hbase, hguard, if_neg (by decide), after_append, hstart, List.drop_left,
      List.take_left, hs, decide_eq_true hle, Bool.and_self, if_pos rfl]
    dsimp only [Except.bind]
    rw [if_pos hs, before_append]
    rfl
  · -- Neither of the two finds a suffix that is not there.
    have hnone : ¬ (decide (3 ≤ name.toList.length) &&
        spells ".pk" (name.toList.drop (name.toList.length - 3))) = true := by
      intro hfound
      rw [Bool.and_eq_true] at hfound
      exact hsuffix ⟨_, _, (List.take_append_drop _ _).symm, hfound.2⟩
    rw [if_neg hnone]
    split
    · rfl
    · rename_i hguard
      simp only [Bool.or_eq_true, not_or, Option.isNone_iff_eq_none] at hguard
      obtain ⟨suffix, hrest⟩ := Option.ne_none_iff_exists'.1 hguard.2
      obtain ⟨base, heq, -⟩ := Text.exists_of_dropBytes? hrest
      have hs : ¬ spells ".pk" suffix = true := fun hs => hsuffix ⟨base, suffix, heq, hs⟩
      rw [after, hrest]
      dsimp only [Except.bind]
      rw [if_neg hs]

end FilterQuery.Cursor
