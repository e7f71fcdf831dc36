/-
The parts of a text: between its blank ends, and between separators.

Trimming leaves nothing or a text with no blank at either end, and leaves such a text alone. A text
that was put together with a separator is cut where it was put together, as long as its parts do not
contain the separator.
-/
import FilterQuery.Proofs.Compile
import FilterQuery.Text.Split

set_option autoImplicit false

namespace FilterQuery.Text

/-! ## Trimming -/

/-- What is trimmed has no blank at either end, if anything is left of it. -/
theorem isTrimmed_trimChars {s : List Char} (h : trimChars s ≠ []) : IsTrimmed (trimChars s) := by
  have hbegins := head?_dropWhile isBlank s
  have hends := head?_dropWhile isBlank (skipBlanks s).reverse
  have hprefix : trimChars s <+: skipBlanks s := by
    rw [← List.reverse_suffix, trimChars, dropTrailingBlanks, List.reverse_reverse]
    exact List.dropWhile_suffix _
  constructor
  · obtain ⟨c, r, heq⟩ := List.exists_cons_of_ne_nil h
    obtain ⟨rest, hrest⟩ := hprefix
    refine ⟨c, r, heq, hbegins c ?_⟩
    rw [heq] at hrest
    rw [← skipBlanks, ← hrest]
    rfl
  · obtain ⟨c, r, heq⟩ := List.exists_cons_of_ne_nil (List.reverse_ne_nil_iff.2 h)
    refine ⟨r.reverse, c, ?_, hends c ?_⟩
    · rw [← List.reverse_cons, ← heq, List.reverse_reverse]
    · rw [trimChars, dropTrailingBlanks, List.reverse_reverse] at heq
      rw [heq]
      rfl

/-- **Trimming twice is trimming once.** -/
theorem trimChars_trimChars (s : List Char) : trimChars (trimChars s) = trimChars s := by
  by_cases h : trimChars s = []
  · rw [h]
    rfl
  · exact (isTrimmed_trimChars h).trimChars

/-- A text is what is left of it when it is trimmed, with blanks around it. -/
theorem exists_blanks_around (s : List Char) :
    ∃ blanks blanks', IsBlankText blanks ∧ IsBlankText blanks' ∧
      s = blanks ++ (trimChars s ++ blanks') := by
  obtain ⟨blanks, hb, hs⟩ := exists_blanks s
  obtain ⟨blanks', hb', hend⟩ := exists_blanks (skipBlanks s).reverse
  refine ⟨blanks, blanks'.reverse, hb, fun c hc => hb' c (List.mem_reverse.1 hc), ?_⟩
  have htrim : skipBlanks s = trimChars s ++ blanks'.reverse := by
    rw [trimChars, dropTrailingBlanks, ← skipBlanks, ← List.reverse_append, ← hend,
      List.reverse_reverse]
  rw [← htrim]
  exact hs

/-- **Trimming takes away the blanks around a text** that has none at its ends, and no more. -/
theorem trimChars_around {blanks s blanks' : List Char} (h : IsTrimmed s)
    (hb : IsBlankText blanks) (hb' : IsBlankText blanks') :
    trimChars (blanks ++ (s ++ blanks')) = s := by
  obtain ⟨c, r, hs, hc⟩ := h.begins
  have hbegins : skipBlanks (s ++ blanks') = s ++ blanks' := by
    rw [hs, List.cons_append, skipBlanks_cons _ hc]
  have hends : dropTrailingBlanks (s ++ blanks') = dropTrailingBlanks s := by
    rw [dropTrailingBlanks, List.reverse_append, ← skipBlanks,
      skipBlanks_append fun c hc => hb' c (List.mem_reverse.1 hc)]
    rfl
  have hself : dropTrailingBlanks s = s := by
    have htrim := h.trimChars
    rwa [trimChars, hs, skipBlanks_cons _ hc, ← hs] at htrim
  rw [trimChars, skipBlanks_append hb, hbegins, hends, hself]

/-- Trimming what is put together trims the two ends, and leaves the blanks in between. -/
theorem exists_trimChars_append {s t : List Char} (hs : IsTrimmed (trimChars s))
    (ht : IsTrimmed (trimChars t)) (between : List Char) :
    ∃ blanks blanks', IsBlankText blanks ∧ IsBlankText blanks' ∧
      trimChars (s ++ (between ++ t))
        = trimChars s ++ ((blanks ++ (between ++ blanks')) ++ trimChars t) := by
  obtain ⟨before, blanks, hbefore, hb, hseq⟩ := exists_blanks_around s
  obtain ⟨blanks', after, hb', hafter, hteq⟩ := exists_blanks_around t
  refine ⟨blanks, blanks', hb, hb', ?_⟩
  have hmiddle := hs.between ht (blanks ++ (between ++ blanks'))
  rw [← trimChars_around hmiddle hbefore hafter]
  congr 1
  calc s ++ (between ++ t)
      = (before ++ (trimChars s ++ blanks)) ++ (between ++ (blanks' ++ (trimChars t ++ after))) := by
        rw [← hseq, ← hteq]
    _ = _ := by simp only [List.append_assoc]

/-! ## Cutting -/

variable {s r : List Char}

/-- A text is cut before the first of the characters that are asked for. -/
theorem cutAtFirst_append {p : Char → Bool} {c : Char} (hs : ∀ x ∈ s, p x = false)
    (hc : p c = true) : cutAtFirst p (s ++ c :: r) = (s, some r) := by
  have hrun : ∀ x ∈ s, (!p x) = true := fun x hx => by simp [hs x hx]
  have hrest : ∀ x ∈ (c :: r).head?, (!p x) = false := by simp [hc]
  rw [cutAtFirst, dropWhile_run hrun hrest, takeWhile_run hrun hrest]

/-- A text without such a character is not cut. -/
theorem cutAtFirst_of_forall {p : Char → Bool} (hs : ∀ x ∈ s, p x = false) :
    cutAtFirst p s = (s, none) := by
  have hrun : ∀ x ∈ s, (!p x) = true := fun x hx => by simp [hs x hx]
  have hdrop : (s ++ []).dropWhile (!p ·) = [] := dropWhile_run hrun nofun
  rw [List.append_nil] at hdrop
  rw [cutAtFirst, hdrop]

/-- **There is no other way for a text to be cut**: it is cut nowhere, or before the first of the
characters. -/
theorem cutAtFirst_cases (p : Char → Bool) (s : List Char) :
    ((∀ x ∈ s, p x = false) ∧ cutAtFirst p s = (s, none)) ∨
      ∃ before c after, s = before ++ c :: after ∧ (∀ x ∈ before, p x = false) ∧ p c = true ∧
        cutAtFirst p s = (before, some after) := by
  induction s with
  | nil => exact .inl ⟨nofun, rfl⟩
  | cons c s ih =>
    cases hc : p c with
    | true => exact .inr ⟨[], c, s, rfl, nofun, hc, cutAtFirst_append (s := []) nofun hc⟩
    | false =>
      obtain ⟨hs, -⟩ | ⟨before, c', after, rfl, hbefore, hc', -⟩ := ih
      · have hall : ∀ x ∈ c :: s, p x = false := List.forall_mem_cons.2 ⟨hc, hs⟩
        exact .inl ⟨hall, cutAtFirst_of_forall hall⟩
      · have hall : ∀ x ∈ c :: before, p x = false := List.forall_mem_cons.2 ⟨hc, hbefore⟩
        exact .inr ⟨c :: before, c', after, rfl, hall, hc', cutAtFirst_append hall hc'⟩

/-- A text without a separator is one field. -/
theorem fields_of_forall_ne {separator : Char} (hs : ∀ x ∈ s, x ≠ separator) :
    fields separator s = [s] := by
  induction s with
  | nil => rfl
  | cons c s ih =>
    have hc := hs c List.mem_cons_self
    rw [fields, if_neg (by simpa using hc), ih fun x hx => hs x (List.mem_cons_of_mem _ hx)]

/-- What is before the first separator is the first field. -/
theorem fields_append {separator : Char} (hs : ∀ x ∈ s, x ≠ separator) :
    fields separator (s ++ separator :: r) = s :: fields separator r := by
  induction s with
  | nil => simp [fields]
  | cons c s ih =>
    have hc := hs c List.mem_cons_self
    rw [List.cons_append, fields, if_neg (by simpa using hc),
      ih fun x hx => hs x (List.mem_cons_of_mem _ hx)]

end FilterQuery.Text
