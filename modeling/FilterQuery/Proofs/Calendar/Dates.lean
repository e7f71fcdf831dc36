/-
Dates as they are typed in full.

A date is a year, a month and a day with hyphens between them. The year may have a sign, no number
needs zeros in front, and before each of the three there may be blanks. The reader takes exactly
these texts. All of them end in a digit and none can be continued, which is what a date with a time
of day depends on: its reader first cuts the text at a space, so a space inside the date leaves it
with a part that is no date.
-/
import FilterQuery.Proofs.Calendar.Clocks

set_option autoImplicit false

namespace FilterQuery.Calendar

open Number (InPlaces isDigits ofDigits signed takeSign)

variable {s r : List Char}

/-! ## What the reader does -/

/-- A field of a date is digits, of which there are not too many, and the blanks before them. -/
theorem readField?_append {width : Nat} {blanks digits rest : List Char}
    (hblanks : ∀ c ∈ blanks, Text.isPatternBlank c = true) (hdigits : isDigits digits = true)
    (hlength : digits.length ≤ width)
    (hrest : digits.length < width → ∀ c ∈ rest.head?, c.isDigit = false) :
    readField? width (blanks ++ (digits ++ rest)) = some (ofDigits digits, rest) := by
  have hblank : (blanks ++ (digits ++ rest)).dropWhile Text.isPatternBlank = digits ++ rest :=
    dropWhile_run hblanks fun c hc =>
      isPatternBlank_eq_false_of_isDigit (Number.isDigit_of_head?_append hdigits rest c hc)
  have hafter : ∀ c ∈ (rest.take (width - digits.length)).head?, c.isDigit = false := by
    intro c hc
    rw [List.head?_take] at hc
    split at hc
    · simp at hc
    · exact hrest (by omega) c hc
  have htake : ((digits ++ rest).take width).takeWhile Char.isDigit = digits := by
    rw [List.take_append, List.take_of_length_le hlength]
    exact takeWhile_run (Number.isDigits_iff.1 hdigits).2 hafter
  unfold readField?
  dsimp only
  rw [hblank, htake]
  split
  · simp [isDigits] at hdigits
  · rw [List.drop_left]

/-- A hyphen ends the field before it. -/
theorem isDigit_eq_false_of_hyphen (r : List Char) : ∀ c ∈ ('-' :: r).head?, c.isDigit = false := by
  rintro c ⟨⟩
  rfl

/-- What is read as a date is its three fields, and nothing may be left. -/
theorem readDate?_of_readField? {unsigned afterYear afterMonth afterDay : List Char}
    {negative : Bool} {year month day : Nat} (hs : takeSign s = (negative, unsigned))
    (hyear : readField? 4 unsigned = some (year, '-' :: afterYear))
    (hmonth : readField? 2 afterYear = some (month, '-' :: afterMonth))
    (hday : readField? 2 afterMonth = some (day, afterDay)) :
    readDate? s = if afterDay.isEmpty then Date.of? (signed negative year) month day else none := by
  simp only [readDate?, hs, hyear, hmonth, hday, readHyphen?, Option.bind_eq_bind,
    Option.bind_some]

/-- **A date is read from any digits** between its hyphens, with a sign or without; nothing may
follow. -/
theorem readDate?_of_digits {year month day rest : List Char} {negative : Bool}
    (hs : takeSign s = (negative, year ++ '-' :: (month ++ '-' :: (day ++ rest))))
    (hyear : isDigits year = true ∧ year.length ≤ 4)
    (hmonth : isDigits month = true ∧ month.length ≤ 2)
    (hday : isDigits day = true ∧ day.length ≤ 2)
    (hrest : day.length < 2 → ∀ c ∈ rest.head?, c.isDigit = false) :
    readDate? s = if rest.isEmpty
      then Date.of? (signed negative (ofDigits year)) (ofDigits month) (ofDigits day)
      else none := by
  have hblanks : ∀ c ∈ [], Text.isPatternBlank c = true := List.forall_mem_nil _
  have hyear := readField?_append hblanks hyear.1 hyear.2 fun _ =>
    isDigit_eq_false_of_hyphen (month ++ '-' :: (day ++ rest))
  have hmonth := readField?_append hblanks hmonth.1 hmonth.2 fun _ =>
    isDigit_eq_false_of_hyphen (day ++ rest)
  have hday := readField?_append hblanks hday.1 hday.2 hrest
  exact readDate?_of_readField? hs hyear hmonth hday

/-! ## Parts of a date -/

/-- `SpellsSign negative s`: the text is a minus, or else a plus or nothing at all. -/
inductive SpellsSign : Bool → List Char → Prop
  | none : SpellsSign false []
  | plus : SpellsSign false ['+']
  | minus : SpellsSign true ['-']

/-- `SpellsPart width n s`: the text is the number in at most so many digits, and perhaps blanks
before it. -/
def SpellsPart (width n : Nat) (s : List Char) : Prop :=
  ∃ blanks digits, (∀ c ∈ blanks, Text.isPatternBlank c = true) ∧ SpellsField width n digits ∧
    s = blanks ++ digits

/-- Blanks are not needed. -/
theorem SpellsField.spellsPart {width n : Nat} (h : SpellsField width n s) :
    SpellsPart width n s :=
  ⟨[], s, List.forall_mem_nil _, h, rfl⟩

/-- A sign is taken off a text that does not have another. -/
theorem SpellsSign.takeSign_append {negative : Bool} (h : SpellsSign negative s)
    (hr : ∀ c ∈ r.head?, c ≠ '-' ∧ c ≠ '+') : takeSign (s ++ r) = (negative, r) := by
  cases h with
  | plus => rfl
  | minus => rfl
  | none =>
    rw [List.nil_append]
    unfold takeSign
    split
    · exact absurd rfl (hr '-' rfl).1
    · exact absurd rfl (hr '+' rfl).2
    · rfl

/-- What has been taken off a text is a sign. -/
theorem exists_spellsSign (s : List Char) :
    ∃ sign, SpellsSign (takeSign s).1 sign ∧ s = sign ++ (takeSign s).2 := by
  unfold takeSign
  split
  · exact ⟨_, .minus, rfl⟩
  · exact ⟨_, .plus, rfl⟩
  · exact ⟨_, .none, rfl⟩

/-- **What has been read as a field is a number with blanks before it.** -/
theorem spellsPart_of_readField? {width n : Nat} (h : readField? width s = some (n, r)) :
    ∃ part, SpellsPart width n part ∧ s = part ++ r := by
  have hblanks := of_mem_takeWhile Text.isPatternBlank s
  have hs := List.takeWhile_append_dropWhile (p := Text.isPatternBlank) (l := s)
  unfold readField? at h
  dsimp only at h
  generalize s.takeWhile Text.isPatternBlank = blanks at hblanks hs
  generalize s.dropWhile Text.isPatternBlank = t at h hs
  have hall := of_mem_takeWhile Char.isDigit (t.take width)
  have hfront := List.takeWhile_prefix (l := t.take width) Char.isDigit
  generalize (t.take width).takeWhile Char.isDigit = digits at h hall hfront
  split at h
  · simp at h
  · rename_i hne
    obtain ⟨rfl, rfl⟩ := Prod.mk.inj (Option.some.inj h)
    have hlength : digits.length ≤ width :=
      Nat.le_trans hfront.length_le (List.length_take_le width t)
    obtain ⟨rest, rfl⟩ := hfront.trans (List.take_prefix width t)
    refine ⟨blanks ++ digits, ⟨blanks, digits, hblanks, ?_, rfl⟩, ?_⟩
    · exact spellsField_iff.2 ⟨Number.isDigits_iff.2 ⟨hne, hall⟩, hlength, rfl⟩
    · rw [List.drop_left, List.append_assoc, hs]

theorem eq_of_readHyphen? (h : readHyphen? s = some r) : s = '-' :: r := by
  unfold readHyphen? at h
  split at h
  · rw [Option.some.inj h]
  · exact absurd h (Option.some_ne_none r).symm

namespace SpellsPart

variable {width n : Nat}

/-- There is no other reading of a part of a date than its number, if no digit follows it. -/
theorem readField?_append (h : SpellsPart width n s)
    (hr : ∀ c ∈ r.head?, c.isDigit = false) : readField? width (s ++ r) = some (n, r) := by
  obtain ⟨blanks, digits, hblanks, hdigits, rfl⟩ := h
  obtain ⟨hall, hlength, rfl⟩ := spellsField_iff.1 hdigits
  rw [List.append_assoc]
  exact Calendar.readField?_append hblanks hall hlength fun _ => hr

/-- There are blanks and digits in it. -/
theorem isDigit_or_blank (h : SpellsPart width n s) :
    ∀ c ∈ s, c.isDigit = true ∨ Text.isPatternBlank c = true := by
  obtain ⟨blanks, digits, hblanks, hdigits, rfl⟩ := h
  exact List.forall_mem_append.2
    ⟨fun c hc => .inr (hblanks c hc), fun c hc => .inl (hdigits.isDigits.2 c hc)⟩

/-- It ends in a digit. -/
theorem endsInDigit (h : SpellsPart width n s) : EndsInDigit s := by
  obtain ⟨blanks, digits, -, hdigits, rfl⟩ := h
  exact hdigits.endsInDigit.append blanks

/-- So it does not begin with a sign, whatever stands behind it. -/
theorem head_not_sign (h : SpellsPart width n s) : ∀ c ∈ (s ++ r).head?, c ≠ '-' ∧ c ≠ '+' := by
  have hne : s ≠ [] := by
    obtain ⟨u, c, rfl, -⟩ := h.endsInDigit
    simp
  obtain ⟨c, u, rfl⟩ := List.exists_cons_of_ne_nil hne
  rintro x ⟨⟩
  obtain hdigit | hblank := h.isDigit_or_blank c List.mem_cons_self
  · exact ⟨ne_of_isDigit hdigit (by decide), ne_of_isDigit hdigit (by decide)⟩
  · constructor <;> rintro rfl <;> exact absurd hblank (by decide)

end SpellsPart

/-! ## Dates -/

/-- `d.Typed s`: the text is the year, the month and the day of the date, with hyphens between
them. -/
inductive Date.Typed (d : Date) : List Char → Prop
  | intro {sign year month day : List Char} {negative : Bool} {n : Nat}
      (hsign : SpellsSign negative sign) (hyear : SpellsPart 4 n year)
      (hvalue : signed negative n = d.year) (hmonth : SpellsPart 2 d.month month)
      (hday : SpellsPart 2 d.day day) :
      d.Typed (sign ++ (year ++ '-' :: (month ++ '-' :: day)))

variable {d : Date}

/-- What has been read as a date is one. -/
theorem typed_of_readDate? (h : readDate? s = some d) : d.Typed s := by
  obtain ⟨sign, hsign, hs⟩ := exists_spellsSign s
  unfold readDate? at h
  generalize takeSign s = taken at h hsign hs
  obtain ⟨⟨n, afterYear⟩, hyear, h⟩ := Option.bind_eq_some_iff.1 h
  obtain ⟨beforeMonth, hhyphen, h⟩ := Option.bind_eq_some_iff.1 h
  obtain ⟨⟨m, afterMonth⟩, hmonth, h⟩ := Option.bind_eq_some_iff.1 h
  obtain ⟨beforeDay, hhyphen', h⟩ := Option.bind_eq_some_iff.1 h
  obtain ⟨⟨k, afterDay⟩, hday, h⟩ := Option.bind_eq_some_iff.1 h
  obtain ⟨year, hyear, hyearText⟩ := spellsPart_of_readField? hyear
  obtain ⟨month, hmonth, hmonthText⟩ := spellsPart_of_readField? hmonth
  obtain ⟨day, hday, hdayText⟩ := spellsPart_of_readField? hday
  obtain ⟨hend, h⟩ := Option.ite_none_right_eq_some.1 h
  obtain ⟨hvalue, rfl, rfl⟩ := Date.of?_eq_some_iff.1 h
  rw [List.isEmpty_iff.1 hend, List.append_nil] at hdayText
  rw [hs, hyearText, eq_of_readHyphen? hhyphen, hmonthText, eq_of_readHyphen? hhyphen', hdayText]
  exact .intro hsign hyear hvalue.symm hmonth hday

/-- **A date is read, and with something behind it no longer**, unless that is one more digit. -/
theorem Date.Typed.readDate?_append (h : d.Typed s) (hr : ∀ c ∈ r.head?, c.isDigit = false) :
    readDate? (s ++ r) = if r.isEmpty then some d else none := by
  obtain @⟨sign, year, month, day, negative, n, hsign, hyear, hvalue, hmonth, hday⟩ := h
  have hof : Date.of? d.year d.month d.day = some d := Date.of?_eq_some_iff.2 ⟨rfl, rfl, rfl⟩
  have htaken := hsign.takeSign_append (r := year ++ '-' :: (month ++ '-' :: (day ++ r)))
    hyear.head_not_sign
  have hyear := hyear.readField?_append (isDigit_eq_false_of_hyphen (month ++ '-' :: (day ++ r)))
  have hmonth := hmonth.readField?_append (isDigit_eq_false_of_hyphen (day ++ r))
  have hday := hday.readField?_append hr
  have htext : sign ++ (year ++ '-' :: (month ++ '-' :: day)) ++ r
      = sign ++ (year ++ '-' :: (month ++ '-' :: (day ++ r))) := by
    simp only [List.append_assoc, List.cons_append]
  rw [htext, readDate?_of_readField? htaken hyear hmonth hday, hvalue, hof]

/-- **A text is read as a date exactly if it is one.** -/
theorem readDate?_eq_some_iff : readDate? s = some d ↔ d.Typed s := by
  refine ⟨typed_of_readDate?, fun h => ?_⟩
  have hread := h.readDate?_append (r := []) nofun
  rwa [List.append_nil] at hread

namespace Date.Typed

/-- A date is typed in digits, blanks, hyphens and perhaps a plus. -/
theorem isDigit_or (h : d.Typed s) :
    ∀ c ∈ s, c.isDigit = true ∨ Text.isPatternBlank c = true ∨ c = '-' ∨ c = '+' := by
  obtain ⟨hsign, hyear, -, hmonth, hday⟩ := h
  have hpart {width n : Nat} {part : List Char} (h : SpellsPart width n part) :
      ∀ c ∈ part, c.isDigit = true ∨ Text.isPatternBlank c = true ∨ c = '-' ∨ c = '+' :=
    fun c hc => (h.isDigit_or_blank c hc).imp_right .inl
  have hhyphen : '-'.isDigit = true ∨ Text.isPatternBlank '-' = true ∨ '-' = '-' ∨ '-' = '+' :=
    .inr (.inr (.inl rfl))
  refine List.forall_mem_append.2 ⟨?_, List.forall_mem_append.2 ⟨hpart hyear,
    List.forall_mem_cons.2 ⟨hhyphen, List.forall_mem_append.2 ⟨hpart hmonth,
      List.forall_mem_cons.2 ⟨hhyphen, hpart hday⟩⟩⟩⟩⟩
  cases hsign with
  | none => exact nofun
  | plus => exact List.forall_mem_singleton.2 (.inr (.inr (.inr rfl)))
  | minus => exact List.forall_mem_singleton.2 hhyphen

/-- So it can be cut at a space only. -/
theorem ne_T (h : d.Typed s) : ∀ c ∈ s, c ≠ 'T' := by
  intro c hc
  obtain hdigit | hblank | rfl | rfl := h.isDigit_or c hc
  · exact ne_of_isDigit hdigit rfl
  · rintro rfl
    exact absurd hblank (by decide)
  · decide
  · decide

theorem endsInDigit (h : d.Typed s) : EndsInDigit s := by
  obtain ⟨-, -, -, -, hday⟩ := h
  exact (((hday.endsInDigit.append ['-']).append _).append ['-']).append _ |>.append _

/-- A date of ten characters in its usual form has no blank in it. -/
theorem startsLikeDate_eq_false (h : d.Typed s) (hspace : ' ' ∈ s) : startsLikeDate s = false := by
  refine Bool.eq_false_iff.2 fun hstarts => ?_
  have hread := readDate?_eq_some_iff.2 h
  unfold startsLikeDate at hstarts
  split at hstarts
  · rename_i y₁ y₂ y₃ y₄ m₁ m₂ d₁ d₂ rest
    simp only [List.all_cons, List.all_nil, Bool.and_true, Bool.and_eq_true] at hstarts
    obtain ⟨hy₁, hy₂, hy₃, hy₄, hm₁, hm₂, hd₁, hd₂⟩ := hstarts
    have hsign : takeSign (y₁ :: y₂ :: y₃ :: y₄ :: '-' :: m₁ :: m₂ :: '-' :: d₁ :: d₂ :: rest)
        = (false, [y₁, y₂, y₃, y₄] ++ '-' :: ([m₁, m₂] ++ '-' :: ([d₁, d₂] ++ rest))) := by
      refine Number.takeSign_of_isDigit ?_
      rintro c ⟨⟩
      exact hy₁
    rw [readDate?_of_digits hsign ⟨by simp [isDigits, *], by simp⟩
      ⟨by simp [isDigits, *], by simp⟩ ⟨by simp [isDigits, *], by simp⟩ (by simp)] at hread
    obtain ⟨hend, -⟩ := Option.ite_none_right_eq_some.1 hread
    rw [List.isEmpty_iff.1 hend] at hspace
    have hdigits : ∀ c ∈ [y₁, y₂, y₃, y₄, m₁, m₂, d₁, d₂], c ≠ ' ' := by
      simp only [List.forall_mem_cons, List.not_mem_nil, false_imp_iff, implies_true, and_true]
      exact ⟨ne_of_isDigit hy₁ rfl, ne_of_isDigit hy₂ rfl, ne_of_isDigit hy₃ rfl,
        ne_of_isDigit hy₄ rfl, ne_of_isDigit hm₁ rfl, ne_of_isDigit hm₂ rfl, ne_of_isDigit hd₁ rfl,
        ne_of_isDigit hd₂ rfl⟩
    simp_all [eq_comm]
  · simp at hstarts

end Date.Typed

/-! ## Dates with a time of day -/

/-- **A date alone is read as its midnight**, unless there is a space in it. Then it is cut there,
and what is before the space is no date, since the date goes on. -/
theorem Date.Typed.readDateTime?_eq (h : d.Typed s) :
    readDateTime? s = if ' ' ∈ s then none else some ⟨d, Time.midnight⟩ := by
  have hread := readDate?_eq_some_iff.2 h
  obtain ⟨huncut, hcut⟩ | ⟨before, c, after, rfl, hbefore, hc, hcut⟩ :=
    Text.cutAtFirst_cases (fun c => c == ' ' || c == 'T') s
  · have hspace : ' ' ∉ s := fun hmem => absurd (huncut ' ' hmem) (by decide)
    unfold readDateTime?
    rw [hcut, if_neg hspace]
    simp [hread]
  · rw [Bool.or_eq_true, beq_iff_eq, beq_iff_eq] at hc
    obtain rfl : c = ' ' := hc.resolve_right (h.ne_T c (by simp))
    have hnone : readDate? before = none := by
      refine Option.eq_none_iff_forall_ne_some.2 fun e he => ?_
      have hlonger := (readDate?_eq_some_iff.1 he).readDate?_append (r := ' ' :: after)
        (by rintro c ⟨⟩; rfl)
      rw [hread] at hlonger
      exact absurd hlonger (Option.some_ne_none d)
    unfold readDateTime?
    rw [hcut, if_pos (by simp)]
    simp [hnone]

/-- Whatever is read as a date with a time of day ends in a digit. -/
theorem endsInDigit_of_readDateTime? {dt : DateTime} (h : readDateTime? s = some dt) :
    EndsInDigit s := by
  unfold readDateTime? at h
  obtain ⟨-, hcut⟩ | ⟨before, c, after, rfl, -, -, hcut⟩ :=
    Text.cutAtFirst_cases (fun c => c == ' ' || c == 'T') s
  · rw [hcut] at h
    obtain ⟨date, hdate, -⟩ := Option.bind_eq_some_iff.1 h
    exact (readDate?_eq_some_iff.1 hdate).endsInDigit
  · rw [hcut] at h
    obtain ⟨date, -, h⟩ := Option.bind_eq_some_iff.1 h
    obtain ⟨time, hclock, -⟩ := Option.bind_eq_some_iff.1 h
    obtain ⟨blanks, -, hafter⟩ := exists_blanks after
    rw [hafter]
    exact ((endsInDigit_of_readClock? hclock).append blanks).append [c] |>.append before

end FilterQuery.Calendar
