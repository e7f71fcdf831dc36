/-
Dates and times are read back as they are written in a query.

The reader is wider than the writer: it does not ask for zeros in front, accepts signs and blanks,
and lets the end of a clock be left out. What it takes is known exactly, so all that is left to show
is that whatever is written is one of the ways to type it. A negative year is written with the minus
among its four places, and four places after the minus where three are not enough, which is as much
as the reader takes.
-/
import FilterQuery.Calendar.Printer
import FilterQuery.Proofs.Calendar.Dates

set_option autoImplicit false

namespace FilterQuery.Calendar

open Number (isDigits padded signed)

/-! ## Dates -/

namespace Date

variable (d : Date)

/-- A date by the characters that it is written in. -/
theorem toList_literal :
    d.literal.toList = (showYear 3 d.year).toList ++
      '-' :: ((padded 2 d.month).toList ++ '-' :: (padded 2 d.day).toList) := by
  simp [literal, monthAndDay]

/-- **A date is written as a date is typed.** A negative year has its minus for a sign. -/
theorem typed_literal : d.Typed d.literal.toList := by
  have hge := d.year_ge
  have hle := d.year_le
  have hmonth := d.month_le
  have hday := d.day_le_thirtyOne
  have hyear {width : Nat} (hwidth : width ≤ 4) :
      SpellsPart 4 d.year.natAbs (padded width d.year.natAbs).toList :=
    (spellsField_padded (by decide) hwidth (by omega)).spellsPart
  have hfield {n : Nat} (hn : n < 100) : SpellsPart 2 n (padded 2 n).toList :=
    (spellsField_padded (by decide) (Nat.le_refl 2) hn).spellsPart
  have hmonth := hfield (n := d.month) (by omega)
  have hday := hfield (n := d.day) (by omega)
  rw [toList_literal, showYear]
  split
  · rename_i hneg
    have hsigned : signed true d.year.natAbs = d.year := by
      rw [signed, if_pos rfl]
      omega
    have hminus : "-".toList = ['-'] := rfl
    rw [String.toList_append, hminus, List.append_assoc]
    exact .intro .minus (hyear (by decide)) hsigned hmonth hday
  · rename_i hpos
    have hsigned : signed false d.year.natAbs = d.year := by
      rw [signed, if_neg (by decide)]
      omega
    rw [← List.nil_append (padded 4 d.year.natAbs).toList, List.append_assoc]
    exact .intro .none (hyear (by decide)) hsigned hmonth hday

/-- **Every date is read back from its literal**, whatever the sign of its year. -/
theorem readDate?_literal : readDate? d.literal.toList = some d :=
  readDate?_eq_some_iff.2 d.typed_literal

/-- A date is written in digits and hyphens. -/
theorem mem_literal {c : Char} (hc : c ∈ d.literal.toList) : c.isDigit = true ∨ c = '-' := by
  have hyear : ∀ c ∈ (showYear 3 d.year).toList, c.isDigit = true ∨ c = '-' := by
    intro c hc
    unfold showYear at hc
    split at hc
    · rw [String.toList_append, List.mem_append] at hc
      rcases hc with hc | hc
      · exact .inr (by simpa using hc)
      · exact .inl (Number.isDigit_of_mem_padded hc)
    · exact .inl (Number.isDigit_of_mem_padded hc)
  rw [toList_literal] at hc
  simp only [List.mem_append, List.mem_cons] at hc
  rcases hc with hc | hc | hc | hc | hc
  · exact hyear c hc
  · exact .inr hc
  · exact .inl (Number.isDigit_of_mem_padded hc)
  · exact .inr hc
  · exact .inl (Number.isDigit_of_mem_padded hc)

theorem isTrimmed_literal : IsTrimmed d.literal.toList := by
  refine isTrimmed_of_not_blank (by rw [toList_literal]; simp) fun c hc => ?_
  rcases d.mem_literal hc with h | rfl
  · exact isBlank_eq_false_of_isDigit h
  · decide

end Date

/-! ## Fractions -/

/-- A text is what is left without the zeros at its end, and as many zeros as are missing. -/
theorem dropTrailingZeros_append (s : List Char) :
    (s.reverse.dropWhile (· == '0')).reverse ++
      List.replicate (s.length - (s.reverse.dropWhile (· == '0')).reverse.length) '0' = s := by
  have hsplit := List.takeWhile_append_dropWhile (p := (· == '0')) (l := s.reverse)
  have hzeros := of_mem_takeWhile (· == '0') s.reverse
  generalize s.reverse.takeWhile (· == '0') = zeros at hsplit hzeros
  generalize s.reverse.dropWhile (· == '0') = kept at hsplit
  have hs : s = kept.reverse ++ zeros.reverse := by
    rw [← List.reverse_append, hsplit, List.reverse_reverse]
  have hreplicate : zeros.reverse = List.replicate zeros.length '0' := by
    rw [← List.length_reverse]
    exact List.eq_replicate_of_mem fun c hc => by
      simpa using hzeros c (List.mem_reverse.1 hc)
  have hlength : s.length - kept.reverse.length = zeros.length := by
    rw [hs]
    simp
  rw [hlength, ← hreplicate, ← hs]

/-- The digits of a fraction of a second, without the zeros at their end. -/
def fractionDigits (nanosecond : Nat) : List Char :=
  ((padded 9 nanosecond).toList.reverse.dropWhile (· == '0')).reverse

theorem isDigit_of_mem_fractionDigits {n : Nat} {c : Char} (hc : c ∈ fractionDigits n) :
    c.isDigit = true :=
  Number.isDigit_of_mem_padded
    (List.mem_reverse.1 (List.dropWhile_suffix _ |>.subset (List.mem_reverse.1 hc)))

/-- **A fraction of a second is read back**, though the zeros at its end are not written. -/
theorem readFraction?_fractionDigits {n : Nat} (hpos : n ≠ 0) (hn : n < 1000000000) :
    readFraction? (fractionDigits n) = some n := by
  have hlength : (padded 9 n).toList.length = 9 := Number.length_padded (by decide) hn
  have hfill := dropTrailingZeros_append (padded 9 n).toList
  rw [← fractionDigits, hlength] at hfill
  have hle : (fractionDigits n).length ≤ 9 := by
    have := congrArg List.length hfill
    rw [List.length_append, hlength] at this
    omega
  -- Nothing but zeros would be the fraction 0, which is not written.
  have hne : fractionDigits n ≠ [] := by
    intro hnil
    rw [hnil] at hfill
    have hzero := Number.ofDigits_padded 9 n
    rw [← hfill] at hzero
    exact hpos hzero.symm
  have hdigits : isDigits (fractionDigits n) = true := by
    simp only [isDigits, Bool.and_eq_true, List.all_eq_true]
    exact ⟨by simpa using hne, fun c hc => isDigit_of_mem_fractionDigits hc⟩
  rw [readFraction?, hfill, Number.ofDigits_padded, hdigits]
  simp [hle]

/-! ## Clocks -/

namespace Time

variable (t : Time)

/-- The characters of a clock up to the seconds. -/
def clockChars : List Char :=
  (padded 2 t.hour).toList ++
    ':' :: ((padded 2 t.minute).toList ++ ':' :: (padded 2 t.second).toList)

/-- A time of day by the characters that it is written in. -/
theorem toList_clock :
    t.clock.toList = t.clockChars ++
      if t.nanosecond.val = 0 then [] else '.' :: fractionDigits t.nanosecond := by
  unfold clock showFraction clockChars fractionDigits
  split <;> simp

/-- Up to the seconds a clock is its three fields. -/
theorem spellsFields_clockChars :
    SpellsFields [t.hour.val, t.minute.val, t.second.val] t.clockChars := by
  have hfield {n : Nat} (hn : n < 100) : SpellsField 2 n (padded 2 n).toList :=
    spellsField_padded (by decide) (Nat.le_refl 2) hn
  unfold clockChars
  exact .more (hfield (by omega)) (.more (hfield (by omega)) (.last (hfield (by omega))))

/-- **A time of day is written as a clock is typed.** -/
theorem typed_clock : t.Typed t.clock.toList := by
  have hfields := t.spellsFields_clockChars
  rw [toList_clock]
  split
  · rename_i hzero
    have hnone : t.nanosecond = 0 := Fin.val_eq_zero_iff.1 hzero
    have hclock : Typed ⟨t.hour, t.minute, t.second, 0⟩ t.clockChars := .second hfields
    rwa [← hnone, ← List.append_nil t.clockChars] at hclock
  · rename_i hpos
    have hfraction : SpellsFraction t.nanosecond.val (fractionDigits t.nanosecond) :=
      readFraction?_eq_some_iff.1 (readFraction?_fractionDigits hpos t.nanosecond.isLt)
    exact .fraction hfields hfraction

/-- **Every time of day is read back from its clock**, to the nanosecond. -/
theorem readClock?_clock : readClock? t.clock.toList = some t :=
  readClock?_eq_some_iff.2 (.inl t.typed_clock)

/-- No blank is written in a clock. -/
theorem isTrimmed_clock : IsTrimmed t.clock.toList := by
  refine isTrimmed_of_not_blank (by rw [toList_clock]; simp [clockChars]) fun c hc => ?_
  rw [toList_clock, List.mem_append] at hc
  rcases hc with hc | hc
  · rcases t.spellsFields_clockChars.isDigit_or_colon c hc with h | rfl
    · exact isBlank_eq_false_of_isDigit h
    · decide
  · split at hc
    · exact absurd hc List.not_mem_nil
    · obtain rfl | hc := List.mem_cons.1 hc
      · decide
      · exact isBlank_eq_false_of_isDigit (isDigit_of_mem_fractionDigits hc)

end Time

/-! ## Dates with a time of day -/

namespace DateTime

variable (dt : DateTime)

theorem toList_literal :
    dt.literal.toList = dt.date.literal.toList ++ ' ' :: dt.time.clock.toList := by
  simp [literal]

theorem isTrimmed_literal : IsTrimmed dt.literal.toList := by
  rw [toList_literal]
  exact dt.date.isTrimmed_literal.between dt.time.isTrimmed_clock [' ']

/-- **Every date with a time of day is read back**: no character of the date separates the two. -/
theorem readDateTime?_literal : readDateTime? dt.literal.toList = some dt := by
  have hdate : ∀ c ∈ dt.date.literal.toList, (c == ' ' || c == 'T') = false := by
    intro c hc
    rcases dt.date.mem_literal hc with h | rfl
    · simpa using ⟨ne_of_isDigit h (by decide), ne_of_isDigit h (by decide)⟩
    · decide
  have hblank : Text.skipBlanks dt.time.clock.toList = dt.time.clock.toList := by
    obtain ⟨c, r, heq, hc⟩ := dt.time.isTrimmed_clock.begins
    rw [heq, skipBlanks_cons r hc]
  have hcut := Text.cutAtFirst_append (p := fun c => c == ' ' || c == 'T') (c := ' ')
    (r := dt.time.clock.toList) hdate rfl
  rw [toList_literal]
  simp only [readDateTime?, hcut, dt.date.readDate?_literal, hblank, dt.time.readClock?_clock,
    Option.bind_eq_bind, Option.bind_some]

end DateTime

end FilterQuery.Calendar
