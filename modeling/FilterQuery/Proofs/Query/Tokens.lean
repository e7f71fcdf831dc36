/-
Readers and spellings of tokens.

Each reader of a token is compared with the spellings of that token, in both directions: what is
written is read, if what follows does not continue it, and what is read was written. The directions
ask for different things of the text that follows. To be read as written, a word must not be
followed by a character of a bare value; of a word that was read it is enough to know that no
character of a name follows.
-/
import FilterQuery.Proofs.Query.Grammar
import FilterQuery.Proofs.Query.Words
import FilterQuery.Query.Token

set_option autoImplicit false

namespace FilterQuery

open Text (isBlank skipBlanks readQuotedFrom needsEscape needsEscape_eq_false_iff)

/-! ## Signs and words -/

/-- Is the token a word, which the character after it could continue? -/
def Token.isWord : Token → Bool
  | name _ => true
  | bare _ => true
  | null => true
  | connective _ => true
  | _ => false

/-- A token that is no word is written with a sign in front. -/
theorem exists_sign_of_writes {t : Token} {s : List Char} (ht : t.isWord = false)
    (hs : t.Writes s) : ∃ c r, s = c :: r ∧ c ∈ signs := by
  cases hs with
  | opening => exact ⟨_, _, rfl, by decide⟩
  | closing => exact ⟨_, _, rfl, by decide⟩
  | bang => exact ⟨_, _, rfl, by decide⟩
  | quoted h => exact ⟨_, _, rfl, by decide⟩
  | @operator op symbol h =>
    have hall : ∀ op ∈ Operator.all, ∀ symbol ∈ op.spellings,
        symbol.toList.head?.any (· ∈ signs) := by decide
    have hop : op ∈ Operator.all := by cases op <;> decide
    have hhead := hall op hop symbol h
    cases hs : symbol.toList with
    | nil => simp [hs] at hhead
    | cons c r => exact ⟨c, r, rfl, by simpa [hs] using hhead⟩
  | name | bare | null | connective => simp [Token.isWord] at ht

/-- A connective is written with a letter in front. -/
theorem exists_alpha_of_spells_connective {k : Connective} {s : List Char}
    (h : spells k.word s = true) : ∃ c r, s = c :: r ∧ c.isAlpha = true := by
  have hne : s ≠ [] := by
    rintro rfl
    exact absurd (length_of_spells h) (by cases k <;> decide)
  obtain ⟨c, r, rfl⟩ := List.exists_cons_of_ne_nil hne
  exact ⟨c, r, rfl, isAlpha_of_spells h (by cases k <;> decide) c List.mem_cons_self⟩

/-! ## Runs of characters -/

section Runs

variable {p : Char → Bool} {run rest : List Char}

/-- A run is taken whole if what follows it does not continue it. -/
theorem takeWhile_run (hrun : ∀ c ∈ run, p c = true) (hrest : ∀ c ∈ rest.head?, p c = false) :
    (run ++ rest).takeWhile p = run := by
  rw [List.takeWhile_append_of_pos hrun]
  cases rest with
  | nil => simp
  | cons c r => simp [hrest c rfl]

/-- What follows a run is left. -/
theorem dropWhile_run (hrun : ∀ c ∈ run, p c = true) (hrest : ∀ c ∈ rest.head?, p c = false) :
    (run ++ rest).dropWhile p = rest := by
  rw [List.dropWhile_append_of_pos hrun]
  cases rest with
  | nil => rfl
  | cons c r => simp [hrest c rfl]

/-- What is left does not continue the run that was taken. -/
theorem head?_dropWhile (p : Char → Bool) (s : List Char) :
    ∀ c ∈ (s.dropWhile p).head?, p c = false := by
  intro c hc
  have := List.head?_dropWhile_not p s
  rw [hc] at this
  simpa using this

/-- All characters of a run are of its kind. -/
theorem of_mem_takeWhile (p : Char → Bool) (s : List Char) : ∀ c ∈ s.takeWhile p, p c = true :=
  fun _ hc => List.all_eq_true.1 List.all_takeWhile _ hc

end Runs

/-! ## Blanks -/

theorem isBlankText_nil : IsBlankText [] := nofun

/-- Blanks in front do not matter to what is left without them. -/
theorem skipBlanks_append {blanks : List Char} (hb : IsBlankText blanks) (s : List Char) :
    skipBlanks (blanks ++ s) = skipBlanks s :=
  List.dropWhile_append_of_pos hb

/-- Nothing is skipped of a text that does not begin with a blank. -/
theorem skipBlanks_of_head {s : List Char} (h : ∀ c ∈ s.head?, isBlank c = false) :
    skipBlanks s = s := by
  cases s with
  | nil => rfl
  | cons c r => exact List.dropWhile_cons_of_neg (by simp [h c rfl])

theorem skipBlanks_cons {c : Char} (s : List Char) (h : isBlank c = false) :
    skipBlanks (c :: s) = c :: s :=
  skipBlanks_of_head (by simpa using h)

theorem skipBlanks_skipBlanks (s : List Char) : skipBlanks (skipBlanks s) = skipBlanks s :=
  skipBlanks_of_head (head?_dropWhile _ s)

/-- Of blanks nothing is left. -/
theorem skipBlanks_eq_nil {blanks : List Char} (hb : IsBlankText blanks) :
    skipBlanks blanks = [] := by
  rw [← List.append_nil blanks, skipBlanks_append hb]
  rfl

/-- A text is some blanks and what is left without them. -/
theorem exists_blanks (s : List Char) : ∃ blanks, IsBlankText blanks ∧ s = blanks ++ skipBlanks s :=
  ⟨s.takeWhile isBlank, of_mem_takeWhile _ _, List.takeWhile_append_dropWhile.symm⟩

/-! ## Names -/

/-- A name is read as far as it goes. -/
theorem readName_append {name : String} {rest : List Char} (hn : isName name = true)
    (hrest : ∀ c ∈ rest.head?, isNameChar c = false) :
    readName (name.toList ++ rest) = .ok (name, rest) := by
  obtain ⟨c, r, hs, hc, hr, hword⟩ := isName_iff.1 hn
  rw [hs] at hword
  rw [hs, List.cons_append, readName]
  simp only [hc, if_true, takeWhile_run hr hrest, dropWhile_run hr hrest, hword]
  rw [← hs, String.ofList_toList]

/-- What is read as a name is one, and no character of a name follows it. -/
theorem eq_append_of_readName {s rest : List Char} {name : String}
    (h : readName s = .ok (name, rest)) :
    isName name = true ∧ s = name.toList ++ rest ∧ ∀ c ∈ rest.head?, isNameChar c = false := by
  unfold readName at h
  split at h
  · simp at h
  · rename_i c r
    split at h
    · rename_i hc
      dsimp only at h
      split at h
      · simp at h
      · rename_i hword
        simp only [Except.ok.injEq, Prod.mk.injEq] at h
        obtain ⟨rfl, rfl⟩ := h
        refine ⟨isName_iff.2 ⟨c, r.takeWhile isNameChar, ?_, hc, of_mem_takeWhile _ _, ?_⟩, ?_,
          head?_dropWhile _ r⟩
        · rw [String.toList_ofList]
        · rw [String.toList_ofList, hword]
        · rw [String.toList_ofList, List.cons_append, List.takeWhile_append_dropWhile]
    · simp at h

/-! ## Quoted texts -/

/-- A character that is no escape of anything is read as itself. -/
theorem readQuotedFrom_cons {c : Char} {s : List Char} (read : List Char) (hquote : c ≠ '"')
    (hescape : c = '\\' → ∀ x ∈ s.head?, needsEscape x = false) :
    readQuotedFrom read (c :: s) = readQuotedFrom (c :: read) s := by
  have hnext : c = '\\' → ∀ x r, s = x :: r → needsEscape x = false := by
    intro hc x r hs
    exact hescape hc x (by rw [hs]; rfl)
  rw [readQuotedFrom]
  · exact hquote
  · intro r hc hs
    exact absurd (hnext hc _ r hs) (by decide)
  · intro r hc hs
    exact absurd (hnext hc _ r hs) (by decide)

/-- A quoted text is read from any of its spellings. -/
theorem readQuotedFrom_append {text s : List Char} (h : Quoting text s) (read rest : List Char) :
    readQuotedFrom read (s ++ '"' :: rest) = some (read.reverse ++ text, rest) := by
  -- One case for each way to write a character; what has been read grows by it.
  induction h generalizing read with
  | nil => simp [readQuotedFrom]
  | @plain c text s hc h ih =>
    obtain ⟨hquote, hbackslash⟩ := needsEscape_eq_false_iff.1 hc
    rw [List.cons_append, readQuotedFrom_cons _ hquote (fun hb => absurd hb hbackslash), ih]
    simp
  | @escaped c text s hc h ih =>
    simp only [needsEscape, Bool.or_eq_true, beq_iff_eq] at hc
    rcases hc with rfl | rfl
    · rw [List.cons_append, List.cons_append, readQuotedFrom, ih]
      simp
    · rw [List.cons_append, List.cons_append, readQuotedFrom, ih]
      simp
  | @loneBackslash c text s hc h ih =>
    rw [List.cons_append, List.cons_append, readQuotedFrom_cons _ (by decide) (by simp [hc]),
      ← List.cons_append, ih]
    simp

/-- What is read as a quoted text spells it, up to the quote that closes it. -/
theorem exists_quoting_of_readQuotedFrom {read s text rest : List Char}
    (h : readQuotedFrom read s = some (text, rest)) :
    ∃ t w, Quoting t w ∧ text = read.reverse ++ t ∧ s = w ++ '"' :: rest := by
  -- The cases are those of the reader: the end of the text, the closing quote, the two escapes, and
  -- any other character.
  fun_induction readQuotedFrom read s with
  | case1 => simp at h
  | case2 read r =>
    simp only [Option.some.injEq, Prod.mk.injEq] at h
    exact ⟨[], [], .nil, by simp [h.1], by simp [h.2]⟩
  | case3 read r ih =>
    obtain ⟨t, w, hq, ht, hs⟩ := ih h
    exact ⟨'"' :: t, '\\' :: '"' :: w, .escaped (by decide) hq, by simp [ht], by simp [hs]⟩
  | case4 read r ih =>
    obtain ⟨t, w, hq, ht, hs⟩ := ih h
    exact ⟨'\\' :: t, '\\' :: '\\' :: w, .escaped (by decide) hq, by simp [ht], by simp [hs]⟩
  | case5 read c r hquote hesc₁ hesc₂ ih =>
    obtain ⟨t, w, hq, ht, hs⟩ := ih h
    refine ⟨c :: t, c :: w, ?_, by simp [ht], by simp [hs]⟩
    by_cases hc : c = '\\'
    · -- A backslash that was read as itself: what is written next shows that it stands alone.
      subst hc
      cases w with
      | nil => exact absurd hs (hesc₁ _ rfl)
      | cons d w =>
        rw [List.cons_append] at hs
        refine .loneBackslash (needsEscape_eq_false_iff.2 ⟨?_, ?_⟩) hq
        · rintro rfl
          exact hesc₁ _ rfl hs
        · rintro rfl
          exact hesc₂ _ rfl hs
    · exact .plain (needsEscape_eq_false_iff.2 ⟨hquote, hc⟩) hq

/-- A quoted text is read, quotes and all, from any of its spellings. -/
theorem readQuotedText_append {text : String} {s : List Char} (h : Quoting text.toList s)
    (rest : List Char) : readQuotedText ('"' :: (s ++ '"' :: rest)) = .ok (text, rest) := by
  have hread := readQuotedFrom_append h [] rest
  rw [readQuotedText, Text.readQuoted, List.drop_succ_cons, List.drop_zero, hread]
  simp only [List.reverse_nil, List.nil_append, String.ofList_toList]

/-- What is read as a quoted text, quotes and all, spells it. -/
theorem exists_quoting_of_readQuotedText {s rest : List Char} {text : String}
    (h : readQuotedText ('"' :: s) = .ok (text, rest)) :
    ∃ w, Quoting text.toList w ∧ s = w ++ '"' :: rest := by
  unfold readQuotedText at h
  split at h
  · rename_i t r hread
    simp only [Except.ok.injEq, Prod.mk.injEq] at h
    obtain ⟨rfl, rfl⟩ := h
    obtain ⟨u, w, hq, rfl, hs⟩ := exists_quoting_of_readQuotedFrom hread
    rw [String.toList_ofList]
    exact ⟨w, hq, hs⟩
  · simp at h

/-! ## Operators -/

/-- An operator of one character is read if what follows does not make another one of it. -/
theorem read?_cons {c : Char} {op : Operator} (h : (c, op) ∈ [('=', Operator.eq), ('<', .lt),
    ('>', .gt), (':', .contains)]) {rest : List Char}
    (hrest : ∀ x ∈ rest.head?, x ∉ ['=', '<', '>']) :
    Operator.read? (c :: rest) = some (op, rest) := by
  have hnext (x : Char) (hx : x ∈ ['=', '<', '>']) (r : List Char) : rest ≠ x :: r := by
    rintro rfl
    exact hrest x rfl hx
  have heq := hnext '=' (by decide)
  have hlt := hnext '<' (by decide)
  have hgt := hnext '>' (by decide)
  -- Each operator has its own second characters that would make a longer one of it.
  simp only [List.mem_cons, Prod.mk.injEq, List.not_mem_nil, or_false] at h
  rcases h with ⟨rfl, rfl⟩ | ⟨rfl, rfl⟩ | ⟨rfl, rfl⟩ | ⟨rfl, rfl⟩
  · rw [Operator.read?]
    · exact hgt
    · exact hlt
  · rw [Operator.read?]
    exact heq
  · rw [Operator.read?]
    exact heq
  · rw [Operator.read?]

/-- An operator is read from any of its spellings, if what follows does not make another one of
it. -/
theorem read?_append {op : Operator} {symbol : String} {rest : List Char}
    (h : symbol ∈ op.spellings) (hrest : ∀ x ∈ rest.head?, x ∉ ['=', '<', '>']) :
    Operator.read? (symbol.toList ++ rest) = some (op, rest) := by
  cases op with
  | gte | lte =>
    simp only [Operator.spellings, List.mem_cons, List.not_mem_nil, or_false] at h
    rcases h with rfl | rfl <;> rfl
  | notEq | notContains =>
    obtain rfl := List.mem_singleton.1 h
    rfl
  | eq | lt | gt | contains =>
    obtain rfl := List.mem_singleton.1 h
    exact read?_cons (by decide) hrest

/-- What is read as an operator is one of its spellings. -/
theorem exists_symbol_of_read? {op : Operator} {s rest : List Char}
    (h : Operator.read? s = some (op, rest)) :
    ∃ symbol ∈ op.spellings, s = symbol.toList ++ rest := by
  unfold Operator.read? at h
  split at h <;> simp only [Option.some.injEq, Prod.mk.injEq, reduceCtorEq] at h <;>
    (obtain ⟨rfl, rfl⟩ := h; simp [Operator.spellings, Operator.symbol])

/-- Nothing is read as an operator where none begins. -/
theorem read?_eq_none {s : List Char} (h : ∀ c ∈ s.head?, c ∉ ['=', '<', '>', ':', '!']) :
    Operator.read? s = none := by
  have hhead (c : Char) (hc : c ∈ ['=', '<', '>', ':', '!']) (r : List Char) : s ≠ c :: r := by
    rintro rfl
    exact h c rfl hc
  -- Every row of the table begins with one of these characters.
  rw [Operator.read?]
  all_goals
    intro r hs
    exact hhead _ (by decide) _ hs

/-! ## Values -/

/-- A value that is a word is written as a run of bare characters, which is read as that value. -/
theorem bareLiteral_of_writes {v : Literal} {s : List Char} (hv : v.WellFormed)
    (hs : v.token.Writes s) (hword : v.token.isWord = true) :
    s ≠ [] ∧ (∀ c ∈ s, isBareChar c = true) ∧ bareLiteral s = v := by
  cases v with
  | quoted text => simp [Literal.token, Token.isWord] at hword
  | bare text =>
    cases hs
    refine ⟨hv.1, hv.2.1, ?_⟩
    rw [bareLiteral, hv.2.2]
    simp
  | null =>
    cases hs with
    | null hnull =>
      refine ⟨?_, fun c hc => ?_, ?_⟩
      · rintro rfl
        exact absurd (length_of_spells hnull) (by decide)
      · have := isAlpha_of_spells hnull (by decide) c hc
        exact isBareChar_of_isNameChar (isNameChar_of_isAlpha this)
      · rw [bareLiteral, hnull]
        rfl

/-- The literal of a run of bare characters is well formed and written as that run. -/
theorem writes_bareLiteral {run : List Char} (hne : run ≠ [])
    (hrun : ∀ c ∈ run, isBareChar c = true) :
    (bareLiteral run).WellFormed ∧ (bareLiteral run).token.Writes run := by
  unfold bareLiteral
  split
  · rename_i hnull
    exact ⟨trivial, .null hnull⟩
  · rename_i hnull
    have hw := Token.Writes.bare (String.ofList run)
    rw [String.toList_ofList] at hw
    refine ⟨?_, hw⟩
    rw [Literal.WellFormed, String.toList_ofList]
    exact ⟨hne, hrun, by simpa using hnull⟩

/-- A run of bare characters is read as a value, if it ends there. -/
theorem readValue_run {run rest : List Char} (hne : run ≠ [])
    (hrun : ∀ c ∈ run, isBareChar c = true) (hrest : ∀ c ∈ rest.head?, isBareChar c = false) :
    readValue (run ++ rest) = .ok (bareLiteral run, rest) := by
  obtain ⟨c, r, rfl⟩ := List.exists_cons_of_ne_nil hne
  have hc := hrun c List.mem_cons_self
  -- The run begins with neither a blank nor a quote, so it is taken as it stands.
  have hquote : c ≠ '"' := by
    rintro rfl
    exact absurd hc (by decide)
  have htake := takeWhile_run hrun hrest
  have hdrop := dropWhile_run hrun hrest
  unfold readValue
  rw [List.cons_append, skipBlanks_cons _ (isBlank_eq_false_of_isBareChar hc), ← List.cons_append]
  split
  · rename_i heq
    exact absurd (List.cons.inj heq).1 hquote
  · rw [htake, hdrop]

/-- A value is read from any of its spellings, with blanks before it, if what follows does not
continue it. -/
theorem readValue_append {v : Literal} {blanks s rest : List Char} (hb : IsBlankText blanks)
    (hv : v.WellFormed) (hs : v.token.Writes s)
    (hrest : v.token.isWord = true → ∀ c ∈ rest.head?, isBareChar c = false) :
    readValue (blanks ++ (s ++ rest)) = .ok (v, rest) := by
  have hskip : readValue (blanks ++ (s ++ rest)) = readValue (s ++ rest) := by
    rw [readValue, skipBlanks_append hb, readValue]
  rw [hskip]
  by_cases hword : v.token.isWord = true
  · obtain ⟨hne, hrun, hlit⟩ := bareLiteral_of_writes hv hs hword
    rw [readValue_run hne hrun (hrest hword), hlit]
  · cases v with
    | bare text => exact absurd rfl hword
    | null => exact absurd rfl hword
    | quoted text =>
      cases hs with
      | quoted hq =>
        have hread := readQuotedText_append hq rest
        rw [readValue, List.cons_append, skipBlanks_cons _ (by decide)]
        simp only [List.append_assoc, List.singleton_append, hread]
        rfl

/-- What is read as a value spells it, with blanks before it, and ends there. -/
theorem exists_spelling_of_readValue {v : Literal} {s rest : List Char}
    (h : readValue s = .ok (v, rest)) :
    v.WellFormed ∧ ∃ blanks w, IsBlankText blanks ∧ v.token.Writes w ∧ s = blanks ++ (w ++ rest) ∧
      (v.token.isWord = true → ∀ c ∈ rest.head?, isBareChar c = false) := by
  obtain ⟨blanks, hb, hs⟩ := exists_blanks s
  unfold readValue at h
  split at h
  · rename_i r heq
    cases hq : readQuotedText ('"' :: r) with
    | error f => simp [hq, Except.map] at h
    | ok p =>
      obtain ⟨text, rest'⟩ := p
      simp only [hq, Except.map, Except.ok.injEq, Prod.mk.injEq] at h
      obtain ⟨rfl, rfl⟩ := h
      obtain ⟨w, hw, rfl⟩ := exists_quoting_of_readQuotedText hq
      refine ⟨trivial, blanks, _, hb, .quoted hw, ?_, by simp [Literal.token, Token.isWord]⟩
      rw [heq] at hs
      simpa using hs
  · split at h
    · simp at h
    · rename_i hne
      simp only [Except.ok.injEq, Prod.mk.injEq] at h
      obtain ⟨rfl, rfl⟩ := h
      obtain ⟨hv, hw⟩ := writes_bareLiteral hne (of_mem_takeWhile _ _)
      refine ⟨hv, blanks, _, hb, hw, ?_, fun _ => head?_dropWhile _ _⟩
      rw [List.takeWhile_append_dropWhile]
      exact hs

/-! ## Connectives -/

/-- A word is read from any of its spellings, if it ends there. -/
theorem readWord?_append {word : String} {s rest : List Char} (h : spells word s = true)
    (hrest : ∀ c ∈ rest.head?, isNameChar c = false) :
    readWord? word (s ++ rest) = some rest := by
  have hlen := length_of_spells h
  have hnext : rest.head?.any isNameChar = false := by
    cases rest with
    | nil => rfl
    | cons c r => exact hrest c rfl
  rw [readWord?, ← hlen, List.take_left, List.drop_left, h, hnext]
  rfl

/-- What is read as a word spells it, and it ends there. -/
theorem exists_spelling_of_readWord? {word : String} {s rest : List Char}
    (h : readWord? word s = some rest) :
    ∃ w, spells word w = true ∧ s = w ++ rest ∧ ∀ c ∈ rest.head?, isNameChar c = false := by
  unfold readWord? at h
  dsimp only at h
  split at h
  · rename_i hword
    simp only [Bool.and_eq_true, Bool.not_eq_true'] at hword
    obtain rfl := Option.some.inj h
    refine ⟨_, hword.1, (List.take_append_drop _ s).symm, fun c hc => ?_⟩
    have hnext := hword.2
    rw [Option.mem_def.1 hc] at hnext
    exact hnext
  · simp at h

/-- A connective is read from any of its spellings, if the word ends there. -/
theorem Connective.read?_append {k : Connective} {s rest : List Char}
    (h : spells k.word s = true) (hrest : ∀ c ∈ rest.head?, isNameChar c = false) :
    Connective.read? (s ++ rest) = some (k, rest) := by
  have hread := readWord?_append h hrest
  cases k with
  | and => simp [Connective.read?, hread]
  | or =>
    -- A spelling of `or` begins with an `o`, so it is not read as an `and`.
    have hand : readWord? "and" (s ++ rest) = none := by
      refine Option.eq_none_iff_forall_ne_some.2 fun r hr => ?_
      obtain ⟨w, hw, heq, -⟩ := exists_spelling_of_readWord? hr
      rw [spells, beq_iff_eq] at h hw
      have hheads := congrArg (List.map Char.toLower) heq
      rw [List.map_append, List.map_append, h, hw] at hheads
      exact absurd (show some 'o' = some 'a' from congrArg List.head? hheads) (by decide)
    simp only [Connective.read?, Connective.word] at hread ⊢
    simp [hand, hread]

/-- What is read as a connective spells it, and the word ends there. -/
theorem Connective.exists_spelling_of_read? {k : Connective} {s rest : List Char}
    (h : Connective.read? s = some (k, rest)) :
    ∃ w, spells k.word w = true ∧ s = w ++ rest ∧ ∀ c ∈ rest.head?, isNameChar c = false := by
  obtain ⟨k', -, hk⟩ := List.exists_of_findSome?_eq_some h
  obtain ⟨r, hr, he⟩ := Option.map_eq_some_iff.1 hk
  obtain ⟨rfl, rfl⟩ := Prod.mk.inj he
  exact exists_spelling_of_readWord? hr

end FilterQuery
