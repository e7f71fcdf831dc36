/-
Quoted texts, and where they end.

A backslash between quotes looks one character ahead, so it is not plain at sight which quote closes
a quoted text. It is the first quote that has an even number of backslashes right before it, and
this is how a complete quoted text is told here, without the reader and without the grammar
(`IsQuotedText`). To count backslashes backwards from a quote comes to the same as to go forwards
and keep in mind whether a backslash is waiting for what it may escape (`foldl_nextPending_iff`),
and forwards is the way the grammar goes (`isQuotedText_iff_writes`).

The rest is about what follows. A complete quoted text is read whole, whatever stands behind it, so
none is the beginning of another one, and a text that is refused begins with none. The refusing half
is not idle: a reader that also refused a backslash which escapes nothing would undo quoting just as
well.
-/
import FilterQuery.Proofs.Query.Offsets
import FilterQuery.Proofs.Query.Printing
import Mathlib.Algebra.Ring.Parity
import Mathlib.Data.List.DropRight

set_option autoImplicit false

namespace FilterQuery

open Text (needsEscape needsEscape_eq_false_iff)

/-! ## Complete quoted texts -/

/-- How many backslashes a text ends in. -/
def trailingBackslashes (s : List Char) : Nat :=
  (s.rtakeWhile (· == '\\')).length

/-- A complete quoted text, quotes and all. An even number of backslashes stands before the quote at
its end, and an odd number before every quote in between. -/
def IsQuotedText (s : List Char) : Prop :=
  ∃ inner, s = '"' :: (inner ++ ['"']) ∧ Even (trailingBackslashes inner) ∧
    ∀ before after, inner = before ++ '"' :: after → Odd (trailingBackslashes before)

/-! ## Counting backslashes by going forwards -/

/-- Behind one more character, does a backslash wait for what it may escape? -/
def nextPending (pending : Bool) (c : Char) : Bool :=
  c == '\\' && !pending

/-- A backslash is waiting exactly behind an odd number of them. -/
theorem foldl_nextPending_iff (s : List Char) :
    s.foldl nextPending false = true ↔ Odd (trailingBackslashes s) := by
  induction s using List.reverseRecOn with
  | nil => simp [trailingBackslashes]
  | append_singleton s c ih =>
    rw [List.foldl_concat, nextPending, trailingBackslashes, List.rtakeWhile_concat]
    by_cases hc : (c == '\\') = true
    · -- One backslash more turns odd into even and back.
      rw [if_pos hc, hc, Bool.true_and, List.length_append, List.length_singleton,
        Nat.odd_add_one, ← trailingBackslashes, ← ih, Bool.not_eq_true', Bool.not_eq_true]
    · rw [if_neg hc]
      simp [hc]

/-- From where a backslash is waiting or not, `s` leads to where none is, and its quotes are behind
waiting backslashes. -/
structure StaysInside (pending : Bool) (s : List Char) : Prop where
  closable : s.foldl nextPending pending = false
  escaped : ∀ before after, s = before ++ '"' :: after → before.foldl nextPending pending = true

variable {pending : Bool} {s : List Char}

theorem staysInside_nil_iff : StaysInside pending [] ↔ pending = false :=
  ⟨fun h => h.closable, fun h => ⟨h, fun before after hs => by cases before <;> cases hs⟩⟩

theorem staysInside_cons_iff {c : Char} :
    StaysInside pending (c :: s) ↔
      (c = '"' → pending = true) ∧ StaysInside (nextPending pending c) s := by
  constructor
  · rintro ⟨hclosable, hescaped⟩
    refine ⟨?_, hclosable, fun before after hs => ?_⟩
    · rintro rfl
      exact hescaped [] s rfl
    · exact hescaped (c :: before) after (congrArg (c :: ·) hs)
  · rintro ⟨hquote, hclosable, hescaped⟩
    refine ⟨hclosable, fun before after hs => ?_⟩
    cases before with
    | nil => exact hquote (List.cons.inj hs).1
    | cons b before =>
      obtain ⟨rfl, hrest⟩ := List.cons.inj hs
      exact hescaped before after hrest

/-- A text stays inside quotes if it ends in an even number of backslashes and every quote in it has
an odd number before it. -/
theorem staysInside_iff :
    StaysInside false s ↔ Even (trailingBackslashes s) ∧
      ∀ before after, s = before ++ '"' :: after → Odd (trailingBackslashes before) := by
  have hclosable : s.foldl nextPending false = false ↔ Even (trailingBackslashes s) := by
    rw [← Nat.not_odd_iff_even, ← foldl_nextPending_iff, Bool.not_eq_true]
  constructor
  · rintro ⟨hends, hescaped⟩
    refine ⟨hclosable.1 hends, fun before after hs => ?_⟩
    exact (foldl_nextPending_iff before).1 (hescaped before after hs)
  · rintro ⟨heven, hodd⟩
    refine ⟨hclosable.2 heven, fun before after hs => ?_⟩
    exact (foldl_nextPending_iff before).2 (hodd before after hs)

/-! ## Complete quoted texts and the grammar -/

/-- No backslash waits behind a character that needs none, wherever it stands. -/
theorem nextPending_of_plain {c : Char} (h : needsEscape c = false) :
    nextPending pending c = false := by
  simp [nextPending, (needsEscape_eq_false_iff.1 h).2]

/-- Nothing waits behind the character that a waiting backslash was waiting for. -/
theorem nextPending_true (c : Char) : nextPending true c = false :=
  Bool.and_false _

/-- What the grammar admits between quotes stays inside them. -/
theorem Quoting.staysInside {text s : List Char} (h : Quoting text s) : StaysInside false s := by
  -- One case for each way to write a character. The second half of an escape is read with the
  -- backslash waiting, and so is what follows a lone backslash.
  induction h with
  | nil => exact staysInside_nil_iff.2 rfl
  | @plain c text s hc h ih =>
    refine staysInside_cons_iff.2 ⟨fun hquote => ?_, ?_⟩
    · exact absurd hquote (needsEscape_eq_false_iff.1 hc).1
    · rwa [nextPending_of_plain hc]
  | @escaped c text s hc h ih =>
    refine staysInside_cons_iff.2 ⟨nofun, staysInside_cons_iff.2 ⟨fun _ => rfl, ?_⟩⟩
    rwa [show nextPending false '\\' = true from rfl, nextPending_true]
  | @loneBackslash c text s hc h ih =>
    refine staysInside_cons_iff.2 ⟨nofun, staysInside_cons_iff.2 ⟨fun _ => rfl, ?_⟩⟩
    have hrest := (staysInside_cons_iff.1 ih).2
    rwa [nextPending_of_plain hc] at hrest ⊢

/-- What stays inside quotes is admitted there by the grammar. -/
theorem StaysInside.exists_quoting : ∀ {s : List Char}, StaysInside false s → ∃ text, Quoting text s
  | [], _ => ⟨[], .nil⟩
  | c :: s, h => by
    obtain ⟨hquote, hrest⟩ := staysInside_cons_iff.1 h
    by_cases hbackslash : c = '\\'
    · subst hbackslash
      -- A waiting backslash is followed by something, and behind that nothing waits.
      match s, hrest with
      | [], hrest => exact absurd (staysInside_nil_iff.1 hrest) (by decide)
      | d :: s, hrest =>
        obtain ⟨-, hrest⟩ := staysInside_cons_iff.1 hrest
        rw [show nextPending false '\\' = true from rfl, nextPending_true] at hrest
        obtain ⟨text, htext⟩ := hrest.exists_quoting
        cases hd : needsEscape d with
        | true => exact ⟨d :: text, .escaped hd htext⟩
        | false => exact ⟨'\\' :: d :: text, .loneBackslash hd (.plain hd htext)⟩
    · have hne : c ≠ '"' := fun hc => absurd (hquote hc) (by decide)
      have hplain : needsEscape c = false := needsEscape_eq_false_iff.2 ⟨hne, hbackslash⟩
      rw [nextPending_of_plain hplain] at hrest
      obtain ⟨text, htext⟩ := hrest.exists_quoting
      exact ⟨c :: text, .plain hplain htext⟩

/-- **The quoted texts of the grammar are the complete ones**, as they are told apart by counting
backslashes. -/
theorem isQuotedText_iff_writes :
    IsQuotedText s ↔ ∃ text : String, (Token.quoted text).Writes s := by
  constructor
  · rintro ⟨inner, rfl, hinner⟩
    obtain ⟨text, htext⟩ := (staysInside_iff.2 hinner).exists_quoting
    refine ⟨String.ofList text, .quoted ?_⟩
    rwa [String.toList_ofList]
  · rintro ⟨text, h⟩
    cases h with
    | @quoted _ inner hquoting => exact ⟨inner, rfl, staysInside_iff.1 hquoting.staysInside⟩

/-! ## Reading with something behind -/

/-- A quoted text is read whole, whatever follows it. -/
theorem readQuotedText_of_writes {text : String} {u : List Char} (h : (Token.quoted text).Writes u)
    (rest : List Char) : readQuotedText (u ++ rest) = .ok (text, rest) := by
  cases h with
  | @quoted _ inner hquoting =>
    rw [List.cons_append, List.append_assoc, List.singleton_append]
    exact readQuotedText_append hquoting rest

/-- A quoted text is read exactly from a text that begins with one of its spellings. -/
theorem readQuotedText_eq_ok_iff {text : String} {rest : List Char} :
    readQuotedText ('"' :: s) = .ok (text, rest) ↔
      ∃ u, (Token.quoted text).Writes u ∧ '"' :: s = u ++ rest := by
  constructor
  · intro h
    obtain ⟨inner, hquoting, rfl⟩ := exists_quoting_of_readQuotedText h
    exact ⟨'"' :: (inner ++ ['"']), .quoted hquoting, by simp⟩
  · rintro ⟨u, hu, heq⟩
    rw [heq]
    exact readQuotedText_of_writes hu rest

/-- **No complete quoted text is the beginning of another one.** -/
theorem IsQuotedText.eq_of_prefix {u v : List Char} (hu : IsQuotedText u) (hv : IsQuotedText v)
    (h : v <+: u) : v = u := by
  obtain ⟨text, hu⟩ := isQuotedText_iff_writes.1 hu
  obtain ⟨text', hv⟩ := isQuotedText_iff_writes.1 hv
  obtain ⟨rest, rfl⟩ := h
  -- The reader takes `v` only and leaves the rest; but it takes all of `u` and leaves nothing.
  have hshort := readQuotedText_of_writes hv rest
  have hwhole := readQuotedText_of_writes hu []
  rw [List.append_nil, hshort] at hwhole
  obtain ⟨-, rfl⟩ := Prod.mk.inj (Except.ok.inj hwhole)
  exact (List.append_nil v).symm

/-- A text is refused exactly if it begins with no complete quoted text, and the blame is on its
beginning. -/
theorem readQuotedText_eq_error_iff {f : Fault} :
    readQuotedText ('"' :: s) = .error f ↔
      f = ⟨.unclosedQuote, '"' :: s⟩ ∧ ∀ v, IsQuotedText v → ¬ v <+: '"' :: s := by
  constructor
  · intro h
    refine ⟨?_, fun v hv hprefix => ?_⟩
    · unfold readQuotedText at h
      split at h
      · cases h
      · exact (Except.error.inj h).symm
    · obtain ⟨text, hv⟩ := isQuotedText_iff_writes.1 hv
      obtain ⟨rest, heq⟩ := hprefix
      rw [← heq, readQuotedText_of_writes hv rest] at h
      cases h
  · rintro ⟨rfl, hnone⟩
    unfold readQuotedText
    split
    · rename_i quoted rest hread
      have hok : readQuotedText ('"' :: s) = .ok (String.ofList quoted, rest) := by
        rw [readQuotedText, hread]
      obtain ⟨u, hu, heq⟩ := readQuotedText_eq_ok_iff.1 hok
      exact absurd ⟨rest, heq.symm⟩ (hnone u (isQuotedText_iff_writes.2 ⟨_, hu⟩))
    · rfl

/-- Complete is what the reader takes from beginning to end. -/
theorem isQuotedText_iff_readQuotedText :
    IsQuotedText ('"' :: s) ↔ ∃ text, readQuotedText ('"' :: s) = .ok (text, []) := by
  simp only [readQuotedText_eq_ok_iff, isQuotedText_iff_writes, List.append_nil, exists_eq_right']

/-- By offsets, too, a quoted text is read up to the place behind its closing quote, whatever stands
before it and behind it. -/
theorem Cursor.readQuotedText_of_writes {text : String} {u : List Char}
    (h : (Token.quoted text).Writes u) (before rest : List Char) :
    Cursor.readQuotedText (before ++ (u ++ rest)) (byteLength before)
      = .ok (text, byteLength before + byteLength u) := by
  have hread := FilterQuery.readQuotedText_of_writes h rest
  cases h with
  | @quoted _ inner hquoting =>
    rw [List.cons_append] at hread ⊢
    have hplace := readQuotedText_offset
      (List.suffix_append before ('"' :: ((inner ++ ['"']) ++ rest)))
    have hstop := Text.offset_unread (before ++ '"' :: (inner ++ ['"'])) rest
    rw [List.append_assoc, List.cons_append, byteLength_append] at hstop
    rw [Text.offset_unread, hread, located, hstop] at hplace
    exact hplace

/-- **Quoting is undone exactly, whatever follows.** A text that is written in quotes is read back,
and what follows it is left. Of any text that begins with a quote the reader takes a complete quoted
text, as the grammar understands it, and takes it in the same way whatever follows; by offsets it
stops at the byte behind the closing quote, whatever stands before. No shorter beginning is
complete. Where there is no complete one at the beginning, and only there, it blames the opening
quote. -/
theorem quote_exactly_undone (s : List Char) :
    (∀ t r : String, readQuotedText (Text.quote t ++ r).toList = .ok (t, r.toList)) ∧
    (IsQuotedText ('"' :: s) ↔ ∃ text, readQuotedText ('"' :: s) = .ok (text, [])) ∧
    (∀ text rest, readQuotedText ('"' :: s) = .ok (text, rest) →
      ∃ u, '"' :: s = u ++ rest ∧ (Token.quoted text).Writes u ∧ IsQuotedText u ∧
        (∀ other, readQuotedText (u ++ other) = .ok (text, other)) ∧
        (∀ before other, Cursor.readQuotedText (before ++ (u ++ other)) (byteLength before)
          = .ok (text, byteLength before + byteLength u)) ∧
        ∀ v, IsQuotedText v → v <+: u → v = u) ∧
    ∀ f, readQuotedText ('"' :: s) = .error f →
      (∀ v, IsQuotedText v → ¬ v <+: '"' :: s) ∧
      ∀ before, f.locate (before ++ '"' :: s) = ⟨.unclosedQuote, byteLength before⟩ := by
  refine ⟨fun t r => ?_, isQuotedText_iff_readQuotedText, fun text rest h => ?_, fun f h => ?_⟩
  · rw [String.toList_append]
    exact readQuotedText_of_writes (writes_quote t) r.toList
  · obtain ⟨u, hu, heq⟩ := readQuotedText_eq_ok_iff.1 h
    have hcomplete : IsQuotedText u := isQuotedText_iff_writes.2 ⟨text, hu⟩
    refine ⟨u, heq, hu, hcomplete, readQuotedText_of_writes hu, ?_, ?_⟩
    · exact Cursor.readQuotedText_of_writes hu
    · exact fun v hv hprefix => hcomplete.eq_of_prefix hv hprefix
  · obtain ⟨rfl, hnone⟩ := readQuotedText_eq_error_iff.1 h
    exact ⟨hnone, fun before => congrArg (ParseError.mk _) (Text.offset_unread before _)⟩

/-- Three backslashes and a quote in front of the quote that closes a text, and another backslash
behind it. Without the closing quote nothing is complete, and the blame is on a byte behind a letter
of two bytes. -/
theorem quote_exactly_undone_backslashes :
    let closed := "\"\\x\\\\\\\"\"".toList
    let rest := "\\\"".toList
    let unclosed := "\"\\x\\\\\\\"".toList
    readQuotedText (closed ++ rest) = .ok ("\\x\\\"", rest) ∧
      (Token.quoted "\\x\\\"").Writes closed ∧ IsQuotedText closed ∧
      (∀ other, readQuotedText (closed ++ other) = .ok ("\\x\\\"", other)) ∧
      Cursor.readQuotedText ("ä=".toList ++ (closed ++ rest)) 3 = .ok ("\\x\\\"", 11) ∧
      (∀ v, IsQuotedText v → v <+: closed → v = closed) ∧
    readQuotedText unclosed = .error ⟨.unclosedQuote, unclosed⟩ ∧
      (∀ v, IsQuotedText v → ¬ v <+: unclosed) ∧
      Fault.locate ("ä=".toList ++ unclosed) ⟨.unclosedQuote, unclosed⟩ = ⟨.unclosedQuote, 3⟩ := by
  intro closed rest unclosed
  have hread : readQuotedText (closed ++ rest) = .ok ("\\x\\\"", rest) := by rfl
  have hrefused : readQuotedText unclosed = .error ⟨.unclosedQuote, unclosed⟩ := by rfl
  obtain ⟨-, -, htaken, -⟩ := quote_exactly_undone (closed.tail ++ rest)
  obtain ⟨-, -, -, hblamed⟩ := quote_exactly_undone unclosed.tail
  obtain ⟨u, heq, hwrites, hcomplete, hother, hstop, hshortest⟩ := htaken _ _ hread
  obtain rfl : closed = u := List.append_cancel_right heq
  obtain ⟨hnone, hposition⟩ := hblamed _ hrefused
  exact ⟨hread, hwrites, hcomplete, hother, hstop "ä=".toList rest, hshortest, hrefused, hnone,
    hposition "ä=".toList⟩

end FilterQuery
