/-
Clocks as they are typed.

A clock is the hour, the hour and the minute, or those and the second, each in one or two digits,
with colons between them, and after seconds there may be a fraction of one to nine digits. That is
said here without the reader, by the numbers of a time and the places that they are written in. The
reader takes every such clock for the time that it says. It takes a little more: it does not mind a
fraction where the seconds are missing, as long as there are only zeros in it.
-/
import FilterQuery.Calendar.Reader
import FilterQuery.Proofs.Number.Padded
import FilterQuery.Proofs.Text.Parts

set_option autoImplicit false

namespace FilterQuery.Calendar

open Number (InPlaces isDigits ofDigits padded)

variable {n nanosecond : Nat} {s : List Char} {t : Time}

/-! ## Characters -/

theorem isNameChar_of_isDigit {c : Char} (h : c.isDigit = true) : isNameChar c = true := by
  simp [isNameChar, Char.isAlphanum, h]

theorem isBlank_eq_false_of_isDigit {c : Char} (h : c.isDigit = true) : Text.isBlank c = false :=
  isBlank_eq_false_of_isNameChar (isNameChar_of_isDigit h)

/-- A digit is no blank of a date pattern. -/
theorem isPatternBlank_eq_false_of_isDigit {c : Char} (h : c.isDigit = true) :
    Text.isPatternBlank c = false := by
  have hall := forall_ascii (p := fun c => !c.isDigit || !Text.isPatternBlank c) (by decide)
    (toNat_lt_of_isNameChar (isNameChar_of_isDigit h))
  simpa [h] using hall

/-- A digit is none of the signs between the fields of dates and times. -/
theorem ne_of_isDigit {c sign : Char} (h : c.isDigit = true) (hsign : sign.isDigit = false) :
    c ≠ sign := by
  rintro rfl
  rw [h] at hsign
  exact absurd hsign (by decide)

/-! ## Fields and fractions -/

/-- Is the last character of the text a digit? -/
def EndsInDigit (s : List Char) : Prop :=
  ∃ r c, s = r ++ [c] ∧ c.isDigit = true

theorem EndsInDigit.append (h : EndsInDigit s) (before : List Char) :
    EndsInDigit (before ++ s) := by
  obtain ⟨r, c, rfl, hc⟩ := h
  exact ⟨before ++ r, c, (List.append_assoc before r [c]).symm, hc⟩

theorem endsInDigit_of_isDigits (h : isDigits s = true) : EndsInDigit s := by
  obtain ⟨hne, hall⟩ := Number.isDigits_iff.1 h
  exact ⟨_, _, (List.dropLast_concat_getLast hne).symm, hall _ (List.getLast_mem hne)⟩

/-- `SpellsField width n s`: the text is the number in at most so many digits. -/
def SpellsField (width n : Nat) (s : List Char) : Prop :=
  ∃ places ≤ width, InPlaces places n s

theorem spellsField_iff {width : Nat} :
    SpellsField width n s ↔ isDigits s = true ∧ s.length ≤ width ∧ ofDigits s = n := by
  simp only [SpellsField, Number.inPlaces_iff]
  constructor
  · rintro ⟨places, hle, hdigits, rfl, hvalue⟩
    exact ⟨hdigits, hle, hvalue⟩
  · rintro ⟨hdigits, hle, hvalue⟩
    exact ⟨s.length, hle, hdigits, rfl, hvalue⟩

/-- There are digits in a field, and nothing else. -/
theorem SpellsField.isDigits {width : Nat} (h : SpellsField width n s) :
    s ≠ [] ∧ ∀ c ∈ s, c.isDigit = true :=
  Number.isDigits_iff.1 (spellsField_iff.1 h).1

/-- A number filled up with zeros is in its field. -/
theorem spellsField_padded {width places : Nat} (hplaces : 0 < places) (hwidth : width ≤ places)
    (hn : n < 10 ^ places) : SpellsField places n (padded width n).toList :=
  spellsField_iff.2 ⟨Number.isDigits_padded width n, Number.length_padded_le hplaces hwidth hn,
    Number.ofDigits_padded width n⟩

theorem SpellsField.endsInDigit {width : Nat} (h : SpellsField width n s) : EndsInDigit s :=
  endsInDigit_of_isDigits (spellsField_iff.1 h).1

/-- `SpellsFraction nanosecond s`: the text is one to nine digits, which are the first places of so
many nanoseconds. -/
def SpellsFraction (nanosecond : Nat) (s : List Char) : Prop :=
  ∃ places ≤ 9, ∃ n, InPlaces places n s ∧ nanosecond = n * 10 ^ (9 - places)

/-- **A fraction is read as its nanoseconds.** -/
theorem readFraction?_eq_some_iff :
    readFraction? s = some nanosecond ↔ SpellsFraction nanosecond s := by
  simp only [readFraction?, SpellsFraction, Number.inPlaces_iff, Number.ofDigits_append_zeros,
    Option.ite_none_right_eq_some, Bool.and_eq_true, decide_eq_true_eq, Option.some.injEq]
  constructor
  · rintro ⟨⟨hdigits, hle⟩, rfl⟩
    exact ⟨s.length, hle, _, ⟨hdigits, rfl, rfl⟩, rfl⟩
  · rintro ⟨places, hle, n, ⟨hdigits, rfl, rfl⟩, rfl⟩
    exact ⟨⟨hdigits, hle⟩, rfl⟩

theorem SpellsFraction.endsInDigit (h : SpellsFraction nanosecond s) : EndsInDigit s := by
  obtain ⟨places, -, n, hplaces, -⟩ := h
  exact endsInDigit_of_isDigits (Number.inPlaces_iff.1 hplaces).1

/-! ## Clocks without a fraction -/

/-- `SpellsFields ns s`: the text is these numbers in one or two digits each, with colons between
them. -/
inductive SpellsFields : List Nat → List Char → Prop
  | last {n : Nat} {s : List Char} (h : SpellsField 2 n s) : SpellsFields [n] s
  | more {n : Nat} {ns : List Nat} {s r : List Char} (h : SpellsField 2 n s)
      (hr : SpellsFields ns r) : SpellsFields (n :: ns) (s ++ ':' :: r)

theorem readClockField?_eq_some_iff : readClockField? s = some n ↔ SpellsField 2 n s := by
  simp only [readClockField?, spellsField_iff, Option.ite_none_right_eq_some, Bool.and_eq_true,
    decide_eq_true_eq, Option.some.injEq, and_assoc]

namespace SpellsFields

variable {ns : List Nat}

/-- There are digits and colons in it. -/
theorem isDigit_or_colon (h : SpellsFields ns s) : ∀ c ∈ s, c.isDigit = true ∨ c = ':' := by
  induction h with
  | last h => exact fun c hc => .inl (h.isDigits.2 c hc)
  | more h hr ih =>
    intro c hc
    obtain hc | hc := List.mem_append.1 hc
    · exact .inl (h.isDigits.2 c hc)
    · obtain rfl | hc := List.mem_cons.1 hc
      · exact .inr rfl
      · exact ih c hc

/-- So a point is behind it. -/
theorem ne_point (h : SpellsFields ns s) : ∀ c ∈ s, (c == '.') = false := by
  intro c hc
  obtain hdigit | rfl := h.isDigit_or_colon c hc
  · exact beq_eq_false_iff_ne.2 (ne_of_isDigit hdigit (by decide))
  · decide

theorem endsInDigit (h : SpellsFields ns s) : EndsInDigit s := by
  induction h with
  | last h => exact h.endsInDigit
  | more h hr ih =>
    rename_i s r
    exact (ih.append [':']).append s

theorem mapM_fields (h : SpellsFields ns s) :
    (Text.fields ':' s).mapM readClockField? = some ns := by
  have hcolon {s : List Char} {n : Nat} (h : SpellsField 2 n s) : ∀ c ∈ s, c ≠ ':' :=
    fun c hc => ne_of_isDigit (h.isDigits.2 c hc) (by decide)
  induction h with
  | last h =>
    rw [Text.fields_of_forall_ne (hcolon h)]
    simp [readClockField?_eq_some_iff.2 h]
  | more h hr ih =>
    rw [Text.fields_append (hcolon h), List.mapM_cons, readClockField?_eq_some_iff.2 h, ih]
    rfl

/-- **What is between the colons of a clock are its fields**, if each of them can be read. -/
theorem of_mapM_fields (h : (Text.fields ':' s).mapM readClockField? = some ns) :
    SpellsFields ns s := by
  induction ns generalizing s with
  | nil =>
    obtain ⟨f, fs, hfields⟩ := List.exists_cons_of_ne_nil (Text.fields_ne_nil ':' s)
    rw [hfields, List.mapM_cons] at h
    simp [Option.bind_eq_some_iff] at h
  | cons n ns ih =>
    obtain ⟨hs, -⟩ | ⟨r, c, after, rfl, hr, hc, -⟩ := Text.cutAtFirst_cases (· == ':') s
    · rw [Text.fields_of_forall_ne fun c hc => beq_eq_false_iff_ne.1 (hs c hc)] at h
      obtain ⟨hs, rfl⟩ : readClockField? s = some n ∧ [] = ns := by
        simpa [Option.bind_eq_some_iff] using h
      exact .last (readClockField?_eq_some_iff.1 hs)
    · obtain rfl := eq_of_beq hc
      rw [Text.fields_append fun c hc => beq_eq_false_iff_ne.1 (hr c hc)] at h
      obtain ⟨hr, hafter⟩ : readClockField? r = some n ∧
          (Text.fields ':' after).mapM readClockField? = some ns := by
        simpa [Option.bind_eq_some_iff] using h
      exact .more (readClockField?_eq_some_iff.1 hr) (ih hafter)

end SpellsFields

/-- A text is not the fields of two clocks, whatever is behind the point after them. -/
theorem SpellsFields.unique {ns ms : List Nat} {r u : List Char} (hs : SpellsFields ns s)
    (hr : SpellsFields ms r) {v : List Char} (h : s ++ '.' :: u = r ++ '.' :: v) : ns = ms := by
  have hcut := Text.cutAtFirst_append (r := u) hs.ne_point (beq_self_eq_true '.')
  rw [h, Text.cutAtFirst_append hr.ne_point (beq_self_eq_true '.')] at hcut
  obtain ⟨rfl, -⟩ := Prod.mk.inj hcut
  have hfields := hs.mapM_fields
  rw [hr.mapM_fields] at hfields
  exact (Option.some.inj hfields).symm

/-! ## Clocks -/

namespace Time

/-- `t.Typed s`: the text is the time of day, up to its hour, its minute or its second if there is
nothing after that, or with a fraction of its second. -/
inductive Typed : Time → List Char → Prop
  | hour {hour : Fin 24} {s : List Char} (hs : SpellsFields [hour.val] s) :
      Typed ⟨hour, 0, 0, 0⟩ s
  | minute {hour : Fin 24} {minute : Fin 60} {s : List Char}
      (hs : SpellsFields [hour.val, minute.val] s) : Typed ⟨hour, minute, 0, 0⟩ s
  | second {hour : Fin 24} {minute second : Fin 60} {s : List Char}
      (hs : SpellsFields [hour.val, minute.val, second.val] s) : Typed ⟨hour, minute, second, 0⟩ s
  | fraction {hour : Fin 24} {minute second : Fin 60} {nanosecond : Fin 1000000000}
      {s r : List Char} (hs : SpellsFields [hour.val, minute.val, second.val] s)
      (hr : SpellsFraction nanosecond.val r) :
      Typed ⟨hour, minute, second, nanosecond⟩ (s ++ '.' :: r)

/-- `t.TypedIdly s`: the text is the time of day up to its hour or its minute, and behind that a
fraction of no second, which comes to nothing. -/
inductive TypedIdly : Time → List Char → Prop
  | hour {hour : Fin 24} {s r : List Char} (hs : SpellsFields [hour.val] s)
      (hr : SpellsFraction 0 r) : TypedIdly ⟨hour, 0, 0, 0⟩ (s ++ '.' :: r)
  | minute {hour : Fin 24} {minute : Fin 60} {s r : List Char}
      (hs : SpellsFields [hour.val, minute.val] s) (hr : SpellsFraction 0 r) :
      TypedIdly ⟨hour, minute, 0, 0⟩ (s ++ '.' :: r)

/-- **A clock with an idle fraction is no clock**: a fraction is behind three fields or none. -/
theorem TypedIdly.not_typed (h : t.TypedIdly s) (other : Time) : ¬ other.Typed s := by
  obtain ⟨ns, clock, fraction, rfl, hclock, hlength⟩ : ∃ ns clock fraction,
      s = clock ++ '.' :: fraction ∧ SpellsFields ns clock ∧ ns.length < 3 := by
    cases h with
    | hour hs => exact ⟨_, _, _, rfl, hs, Nat.le_succ 2⟩
    | minute hs => exact ⟨_, _, _, rfl, hs, Nat.le_refl 3⟩
  have hpoint {ns : List Nat} (hs : SpellsFields ns (clock ++ '.' :: fraction)) : False :=
    absurd (hs.ne_point '.' (by simp)) (by decide)
  intro hother
  generalize htext : clock ++ '.' :: fraction = text at hother hpoint
  cases hother with
  | hour hs => exact hpoint hs
  | minute hs => exact hpoint hs
  | second hs => exact hpoint hs
  | fraction hs =>
    rw [hclock.unique hs htext] at hlength
    exact Nat.lt_irrefl 3 hlength

theorem of?_eq_some_iff {hour minute second nanosecond : Nat} :
    of? hour minute second nanosecond = some t ↔ t.hour.val = hour ∧ t.minute.val = minute ∧
      t.second.val = second ∧ t.nanosecond.val = nanosecond := by
  unfold of?
  split
  · rw [Option.some.injEq]
    constructor
    · rintro rfl
      exact ⟨rfl, rfl, rfl, rfl⟩
    · rintro ⟨rfl, rfl, rfl, rfl⟩
      rfl
  · rename_i h
    simp only [reduceCtorEq, false_iff]
    rintro ⟨rfl, rfl, rfl, rfl⟩
    exact h ⟨t.hour.isLt, t.minute.isLt, t.second.isLt, t.nanosecond.isLt⟩

end Time

/-- The time of some fields has no other parts than these. -/
theorem timeOfFields?_eq_some_iff {ns : List Nat} : timeOfFields? nanosecond ns = some t ↔
    (ns = [t.hour.val] ∧ nanosecond = 0 ∧ t.minute = 0 ∧ t.second = 0 ∧ t.nanosecond = 0) ∨
    (ns = [t.hour.val, t.minute.val] ∧ nanosecond = 0 ∧ t.second = 0 ∧ t.nanosecond = 0) ∨
    (ns = [t.hour.val, t.minute.val, t.second.val] ∧ nanosecond = t.nanosecond.val) := by
  constructor
  · intro h
    unfold timeOfFields? at h
    split at h
    · obtain ⟨hzero, h⟩ := Option.ite_none_right_eq_some.1 h
      obtain ⟨rfl, hminute, hsecond, hpart⟩ := Time.of?_eq_some_iff.1 h
      exact .inl ⟨rfl, hzero, Fin.val_eq_zero_iff.1 hminute, Fin.val_eq_zero_iff.1 hsecond,
        Fin.val_eq_zero_iff.1 hpart⟩
    · obtain ⟨hzero, h⟩ := Option.ite_none_right_eq_some.1 h
      obtain ⟨rfl, rfl, hsecond, hpart⟩ := Time.of?_eq_some_iff.1 h
      exact .inr (.inl ⟨rfl, hzero, Fin.val_eq_zero_iff.1 hsecond, Fin.val_eq_zero_iff.1 hpart⟩)
    · obtain ⟨rfl, rfl, rfl, rfl⟩ := Time.of?_eq_some_iff.1 h
      exact .inr (.inr ⟨rfl, rfl⟩)
    · exact absurd h (Option.some_ne_none t).symm
  · rintro (⟨rfl, rfl, hminute, hsecond, hpart⟩ | ⟨rfl, rfl, hsecond, hpart⟩ | ⟨rfl, rfl⟩)
    · rw [timeOfFields?, if_pos rfl, Time.of?_eq_some_iff, hminute, hsecond, hpart]
      exact ⟨rfl, rfl, rfl, rfl⟩
    · rw [timeOfFields?, if_pos rfl, Time.of?_eq_some_iff, hsecond, hpart]
      exact ⟨rfl, rfl, rfl, rfl⟩
    · exact Time.of?_eq_some_iff.2 ⟨rfl, rfl, rfl, rfl⟩

/-- What is read as a clock are fields, and behind them nothing or a fraction. -/
theorem readClock?_eq_some_iff_fields : readClock? s = some t ↔
    ∃ nanosecond ns, timeOfFields? nanosecond ns = some t ∧
      (nanosecond = 0 ∧ SpellsFields ns s ∨
        ∃ clock fraction, s = clock ++ '.' :: fraction ∧ SpellsFields ns clock ∧
          SpellsFraction nanosecond fraction) := by
  constructor
  · intro h
    unfold readClock? at h
    obtain ⟨-, hcut⟩ | ⟨clock, c, fraction, rfl, -, hc, hcut⟩ :=
      Text.cutAtFirst_cases (· == '.') s
    · rw [hcut] at h
      obtain ⟨-, ⟨⟩, h⟩ := Option.bind_eq_some_iff.1 h
      obtain ⟨ns, hns, htime⟩ := Option.bind_eq_some_iff.1 h
      exact ⟨0, ns, htime, .inl ⟨rfl, .of_mapM_fields hns⟩⟩
    · rw [hcut] at h
      obtain ⟨nanosecond, hfraction, h⟩ := Option.bind_eq_some_iff.1 h
      obtain ⟨ns, hns, htime⟩ := Option.bind_eq_some_iff.1 h
      refine ⟨nanosecond, ns, htime, .inr ⟨clock, fraction, ?_, .of_mapM_fields hns,
        readFraction?_eq_some_iff.1 hfraction⟩⟩
      rw [eq_of_beq hc]
  · unfold readClock?
    rintro ⟨nanosecond, ns, htime, ⟨rfl, hs⟩ | ⟨clock, fraction, rfl, hclock, hfraction⟩⟩
    · rw [Text.cutAtFirst_of_forall hs.ne_point]
      simp [hs.mapM_fields, htime]
    · rw [Text.cutAtFirst_append hclock.ne_point (beq_self_eq_true '.')]
      simp [readFraction?_eq_some_iff.2 hfraction, hclock.mapM_fields, htime]

/-- **A text is read as a clock exactly if it is one**, or has an idle fraction. -/
theorem readClock?_eq_some_iff : readClock? s = some t ↔ t.Typed s ∨ t.TypedIdly s := by
  simp only [readClock?_eq_some_iff_fields, timeOfFields?_eq_some_iff]
  constructor
  · obtain ⟨hour, minute, second, part⟩ := t
    rintro ⟨nanosecond, ns, ⟨rfl, rfl, rfl, rfl, rfl⟩ | ⟨rfl, rfl, rfl, rfl⟩ | ⟨rfl, rfl⟩,
      ⟨hzero, hs⟩ | ⟨clock, fraction, rfl, hclock, hfraction⟩⟩
    · exact .inl (.hour hs)
    · exact .inr (.hour hclock hfraction)
    · exact .inl (.minute hs)
    · exact .inr (.minute hclock hfraction)
    · obtain rfl : part = 0 := Fin.val_eq_zero_iff.1 hzero
      exact .inl (.second hs)
    · exact .inl (.fraction hclock hfraction)
  · rintro (h | h)
    · cases h with
      | hour hs => exact ⟨0, _, .inl ⟨rfl, rfl, rfl, rfl, rfl⟩, .inl ⟨rfl, hs⟩⟩
      | minute hs => exact ⟨0, _, .inr (.inl ⟨rfl, rfl, rfl, rfl⟩), .inl ⟨rfl, hs⟩⟩
      | second hs => exact ⟨0, _, .inr (.inr ⟨rfl, rfl⟩), .inl ⟨rfl, hs⟩⟩
      | fraction hs hr => exact ⟨_, _, .inr (.inr ⟨rfl, rfl⟩), .inr ⟨_, _, rfl, hs, hr⟩⟩
    · cases h with
      | hour hs hr => exact ⟨0, _, .inl ⟨rfl, rfl, rfl, rfl, rfl⟩, .inr ⟨_, _, rfl, hs, hr⟩⟩
      | minute hs hr => exact ⟨0, _, .inr (.inl ⟨rfl, rfl, rfl, rfl⟩), .inr ⟨_, _, rfl, hs, hr⟩⟩

/-- Whatever is read as a clock ends in a digit. -/
theorem endsInDigit_of_readClock? (h : readClock? s = some t) : EndsInDigit s := by
  obtain ⟨nanosecond, ns, -, ⟨-, hs⟩ | ⟨clock, fraction, rfl, -, hfraction⟩⟩ :=
    readClock?_eq_some_iff_fields.1 h
  · exact hs.endsInDigit
  · exact (hfraction.endsInDigit.append ['.']).append clock

end FilterQuery.Calendar
