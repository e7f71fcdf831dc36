/-
Dates and times as they are typed.

The readers of dates and of dates with a time of day go about the same text in different ways. One
gives all of it to the reader of dates in full, the other first cuts it at a space or a `T`; then
both ask for a relative date. The two ways meet again because nothing is a date in full and a
relative date at once: whatever is given in full ends in a digit, and every relative date ends in a
letter. So a text that one takes for a relative date never was a candidate for the other way, and a
date in full is lost only where there is a space in it. The main statements say, for times and for
dates with a time of day, which texts are read and as what, without reference to any reader.
-/
import FilterQuery.Proofs.Calendar.Dates
import FilterQuery.Proofs.Calendar.Relative
import FilterQuery.Value.Reader

set_option autoImplicit false

namespace FilterQuery

namespace Calendar

/-! ## Texts that end in a digit -/

variable {word s : List Char}

/-- No word is at the end of such a text. -/
theorem not_endsInDigit_append (hne : word ≠ []) (hletters : word.all Char.isAlpha = true)
    (before : List Char) : ¬ EndsInDigit (before ++ word) := by
  rintro ⟨u, c, htext, hdigit⟩
  rw [← List.dropLast_concat_getLast hne, ← List.append_assoc] at htext
  obtain ⟨-, hlast⟩ := List.append_inj' htext rfl
  have hletter := List.all_eq_true.1 hletters _ (List.getLast_mem hne)
  rw [List.singleton_inj.1 hlast] at hletter
  have hnone := forall_ascii (p := fun c => !(c.isAlpha && c.isDigit)) (by decide)
    (toNat_lt_of_isNameChar (isNameChar_of_isDigit hdigit))
  rw [hletter, hdigit] at hnone
  exact absurd hnone (by decide)

theorem dropEnding?_of_endsInDigit (hne : word ≠ []) (hletters : word.all Char.isAlpha = true)
    (hs : EndsInDigit s) : dropEnding? word s = none := by
  refine Option.eq_none_iff_forall_ne_some.2 fun r hr => ?_
  rw [dropEnding?_eq_some_iff.1 hr] at hs
  exact not_endsInDigit_append hne hletters r hs

/-- The words for single days are no texts of that kind. -/
theorem expandDayWord_of_endsInDigit (hs : EndsInDigit s) : expandDayWord s = s := by
  have hword (word : String) (hne : word.toList ≠ [])
      (hletters : word.toList.all Char.isAlpha = true) : (s == word.toList) = false := by
    refine beq_eq_false_iff_ne.2 ?_
    rintro rfl
    exact not_endsInDigit_append hne hletters [] hs
  unfold expandDayWord
  simp only [hword "today" (by decide) (by decide), hword "now" (by decide) (by decide),
    hword "yesterday" (by decide) (by decide), hword "tomorrow" (by decide) (by decide),
    Bool.or_false, Bool.false_eq_true, if_false]

/-- Lower case leaves a digit at the end. -/
theorem endsInDigit_lowercase {text : String} (h : EndsInDigit text.toList) :
    EndsInDigit (Text.lowercase text).toList := by
  obtain ⟨u, c, htext, hdigit⟩ := h
  have hascii := toNat_lt_of_isNameChar (isNameChar_of_isDigit hdigit)
  have hsmall := forall_ascii (p := fun c => !c.isDigit || c.toLower == c) (by decide) hascii
  obtain ⟨lowered, hlowered⟩ := Text.exists_lowerFrom_concat [] u hascii
  rw [Text.lowercase, String.toList_ofList, htext, hlowered]
  refine ⟨lowered, c, ?_, hdigit⟩
  rw [hdigit, Bool.not_true, Bool.false_or, beq_iff_eq] at hsmall
  rw [hsmall]

/-- **A text that ends in a digit is no relative date.** -/
theorem readRelativeDate_of_endsInDigit (today : Date) (hs : EndsInDigit (Text.trimChars s)) :
    readRelativeDate today (String.ofList s) = .ok none := by
  rw [readRelativeDate_eq_ok_none_iff]
  have hlowered : EndsInDigit (Text.lowercase (Text.trim (String.ofList s))).toList :=
    endsInDigit_lowercase (by rwa [Text.trim, String.toList_ofList, String.toList_ofList])
  have hago :
      dropEnding? "ago".toList (Text.lowercase (Text.trim (String.ofList s))).toList = none :=
    dropEnding?_of_endsInDigit (by decide) (by decide) hlowered
  have hunit : takeUnit? (Text.lowercase (Text.trim (String.ofList s))).toList = none := by
    refine List.findSome?_eq_none_iff.2 fun p hp => ?_
    obtain ⟨hne, hletters⟩ := spelling_letters p hp
    dsimp only
    rw [dropEnding?_of_endsInDigit hne hletters hlowered, Option.map_none]
  rw [unitOf?, expandDayWord_of_endsInDigit hlowered, takeAgo, hago, hunit, Option.map_none]

end Calendar

open Calendar (Date Time DateTime readRelativeDate startsLikeDate)

namespace Value

/-! ## Times of day -/

/-- **Which texts are times of day.** Apart from blanks around it the text is `now`, in any mixture
of cases, or a clock. A clock is the hour, the hour and the minute or all three, with a fraction
behind the second if there is one; and there may also be a fraction where the second is missing, if
it consists of zeros. -/
theorem readTime_eq_ok_iff (now : Time) (text : String) (v : Value) :
    readTime now text = .ok v ↔
      (spells "now" (Text.trimChars text.toList) = true ∧ v = time now) ∨
        ∃ clock : Time, v = time clock ∧
          (clock.Typed (Text.trimChars text.toList) ∨
            clock.TypedIdly (Text.trimChars text.toList)) := by
  unfold readTime
  dsimp only
  split
  · rename_i hnow
    -- The word does not end in a digit as every clock does.
    have hne : Text.trimChars text.toList ≠ [] := by
      rintro hempty
      rw [hempty] at hnow
      exact absurd hnow (by decide)
    have hclock (clock : Time) : ¬ (clock.Typed (Text.trimChars text.toList) ∨
        clock.TypedIdly (Text.trimChars text.toList)) := by
      rw [← Calendar.readClock?_eq_some_iff]
      exact fun h => Calendar.not_endsInDigit_append hne
        (List.all_eq_true.2 (isAlpha_of_spells hnow (by decide))) []
        (Calendar.endsInDigit_of_readClock? h)
    simp [hnow, hclock, eq_comm]
  · rename_i hnow
    simp only [← Calendar.readClock?_eq_some_iff]
    cases hread : Calendar.readClock? (Text.trimChars text.toList) with
    | none => simp [hnow]
    | some clock => simp [hnow, eq_comm]

/-- **So there is a text that is read as a time of day and is none**: a fraction belongs to the
second, and one of zeros is read without it. -/
theorem exists_clock_with_idle_fraction :
    readTime ⟨15, 30, 0, 0⟩ "12:30.0" = .ok (time ⟨12, 30, 0, 0⟩) ∧
      spells "now" (Text.trimChars "12:30.0".toList) = false ∧
      ∀ clock : Time, ¬ clock.Typed (Text.trimChars "12:30.0".toList) := by
  have hfields : Calendar.SpellsFields [12, 30] "12:30".toList := .of_mapM_fields rfl
  have hfraction : Calendar.SpellsFraction 0 "0".toList := Calendar.readFraction?_eq_some_iff.1 rfl
  have hidle : Time.TypedIdly ⟨12, 30, 0, 0⟩ ("12:30".toList ++ '.' :: "0".toList) :=
    .minute hfields hfraction
  exact ⟨rfl, by decide, hidle.not_typed⟩

/-! ## Dates -/

variable {today d : Date} {t : List Char} {otherwise : ValueError} {text : String}

theorem readRelative_eq_ok_iff : readRelative today t otherwise = .ok d ↔
    startsLikeDate t = false ∧ readRelativeDate today (String.ofList t) = .ok (some d) := by
  unfold readRelative
  dsimp only
  split
  · simp [*]
  · split <;> simp_all

/-- A text that ends in a digit is refused as a relative date, and not for what is wrong in it. -/
theorem readRelative_of_endsInDigit (htrimmed : Text.trimChars t = t)
    (hend : Calendar.EndsInDigit t) (hstarts : startsLikeDate t = false) :
    readRelative today t otherwise = .error otherwise := by
  have hnone := Calendar.readRelativeDate_of_endsInDigit today (htrimmed.symm ▸ hend)
  simp [readRelative, hstarts, hnone]

/-- **Which texts are dates**: a date in full, or else a relative one. -/
theorem readDate_eq_ok_iff : readDate today text = .ok (date d) ↔
    d.Typed (Text.trimChars text.toList) ∨
      (∀ e : Date, ¬ e.Typed (Text.trimChars text.toList)) ∧
        startsLikeDate (Text.trimChars text.toList) = false ∧
          readRelativeDate today (String.ofList (Text.trimChars text.toList)) = .ok (some d) := by
  have hrelative : (readRelative today (Text.trimChars text.toList) (.notDate text)).map date =
      .ok (date d) ↔ readRelative today (Text.trimChars text.toList) (.notDate text) = .ok d := by
    cases readRelative today (Text.trimChars text.toList) (.notDate text) <;> simp [Except.map]
  rw [readRelative_eq_ok_iff] at hrelative
  simp only [← Calendar.readDate?_eq_some_iff, readDate]
  cases Calendar.readDate? (Text.trimChars text.toList) with
  | some e => simp
  | none => simp [hrelative]

/-! ## Dates with a time of day -/

variable {now : DateTime}

/-- **A date in full is read with midnight**, or refused if there is a space in it: it is cut at the
space and none there, and no relative date either. -/
theorem readDateTime_of_typed (h : d.Typed (Text.trimChars text.toList)) :
    readDateTime now text = if ' ' ∈ Text.trimChars text.toList then .error (.notDateTime text)
      else .ok (dateTime ⟨d, Time.midnight⟩) := by
  unfold readDateTime
  dsimp only
  rw [h.readDateTime?_eq]
  by_cases hspace : ' ' ∈ Text.trimChars text.toList
  · rw [if_pos hspace, if_pos hspace]
    dsimp only
    rw [readRelative_of_endsInDigit (Text.trimChars_trimChars text.toList) h.endsInDigit
      (h.startsLikeDate_eq_false hspace)]
    rfl
  · rw [if_neg hspace, if_neg hspace]

/-- **A relative date is read with the present time of day**: it never was a candidate for anything
in full, since it does not end in a digit. -/
theorem readDateTime_of_relative
    (hstarts : startsLikeDate (Text.trimChars text.toList) = false)
    (h : readRelativeDate now.date (String.ofList (Text.trimChars text.toList)) = .ok (some d)) :
    readDateTime now text = .ok (dateTime ⟨d, now.time⟩) := by
  have hread : Calendar.readDateTime? (Text.trimChars text.toList) = none := by
    refine Option.eq_none_iff_forall_ne_some.2 fun dt hdt => ?_
    have hend := Calendar.endsInDigit_of_readDateTime? hdt
    rw [← Text.trimChars_trimChars] at hend
    rw [Calendar.readRelativeDate_of_endsInDigit now.date hend] at h
    exact absurd (Except.ok.inj h).symm (Option.some_ne_none d)
  unfold readDateTime
  dsimp only
  rw [hread]
  dsimp only
  rw [readRelative_eq_ok_iff.2 ⟨hstarts, h⟩]
  rfl

/-- **What is read as a date is read as a date with a time of day**, with one exception. A date in
full is taken with midnight and a relative date with the present time of day, but a date in full
with a space in it is refused. -/
theorem readDateTime_of_readDate (now : DateTime) (text : String)
    (h : readDate now.date text = .ok (date d)) :
    (d.Typed (Text.trimChars text.toList) ∧
      readDateTime now text =
        if ' ' ∈ Text.trimChars text.toList then .error (.notDateTime text)
        else .ok (dateTime ⟨d, Time.midnight⟩)) ∨
    ((∀ e : Date, ¬ e.Typed (Text.trimChars text.toList)) ∧
      readRelativeDate now.date (String.ofList (Text.trimChars text.toList)) = .ok (some d) ∧
      readDateTime now text = .ok (dateTime ⟨d, now.time⟩)) := by
  obtain htyped | ⟨hnone, hstarts, hrelative⟩ := readDate_eq_ok_iff.1 h
  · exact .inl ⟨htyped, readDateTime_of_typed htyped⟩
  · exact .inr ⟨hnone, hrelative, readDateTime_of_relative hstarts hrelative⟩

/-- On the afternoon of the last of January, a date is its midnight and the day after is the same
time of the first of February. -/
theorem readDateTime_of_readDate_afternoon :
    let today : Date := ⟨2024, 1, 31, by decide, by decide, by decide, by decide⟩
    let nextDay : Date := ⟨2024, 2, 1, by decide, by decide, by decide, by decide⟩
    let afternoon : Time := ⟨15, 30, 0, 0⟩
    readDate today "+2024-2-1\n" = .ok (date nextDay) ∧
      readDateTime ⟨today, afternoon⟩ "+2024-2-1\n" = .ok (dateTime ⟨nextDay, Time.midnight⟩) ∧
      readDate today "Tomorrow" = .ok (date nextDay) ∧
      readDateTime ⟨today, afternoon⟩ "Tomorrow" = .ok (dateTime ⟨nextDay, afternoon⟩) := by
  intro today nextDay afternoon
  have hdate : readDate today "+2024-2-1\n" = .ok (date nextDay) := rfl
  have hnone (e : Date) : ¬ e.Typed (Text.trimChars "Tomorrow".toList) := by
    rw [← Calendar.readDate?_eq_some_iff]
    exact (Option.some_ne_none e).symm
  have hrelative : readDate today "Tomorrow" = .ok (date nextDay) :=
    readDate_eq_ok_iff.2 (.inr ⟨hnone, rfl, by decide +kernel⟩)
  refine ⟨hdate, ?_, hrelative, ?_⟩
  · obtain ⟨-, hread⟩ | ⟨hnot, -⟩ := readDateTime_of_readDate ⟨today, afternoon⟩ _ hdate
    · exact hread
    · exact absurd (Calendar.readDate?_eq_some_iff.1 rfl) (hnot nextDay)
  · obtain ⟨htyped, -⟩ | ⟨-, -, hread⟩ := readDateTime_of_readDate ⟨today, afternoon⟩ _ hrelative
    · exact absurd htyped (hnone nextDay)
    · exact hread

/-- **So there is a date that is read as no date with a time of day**: the reader of the latter cuts
it at the space, where it is no date yet. -/
theorem exists_date_without_midnight :
    let today : Date := ⟨2024, 1, 31, by decide, by decide, by decide, by decide⟩
    let march : Date := ⟨2024, 3, 7, by decide, by decide, by decide, by decide⟩
    let text := "2024- 03-07"
    readDate today text = .ok (date march) ∧ march.Typed (Text.trimChars text.toList) ∧
      readDateTime ⟨today, ⟨15, 30, 0, 0⟩⟩ text = .error (.notDateTime text) := by
  intro today march text
  have htyped : march.Typed (Text.trimChars text.toList) :=
    Calendar.readDate?_eq_some_iff.1 (by decide +kernel)
  have hspace : ' ' ∈ Text.trimChars text.toList := by decide
  have hread : readDateTime ⟨today, ⟨15, 30, 0, 0⟩⟩ text = _ := readDateTime_of_typed htyped
  rw [if_pos hspace] at hread
  exact ⟨readDate_eq_ok_iff.2 (.inl htyped), htyped, hread⟩

end Value

end FilterQuery
