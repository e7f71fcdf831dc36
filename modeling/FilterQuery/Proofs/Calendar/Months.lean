/-
Counting months.

Months are added by numbering them, with twelve to a year and January of the year 0 as month 0, and
by dividing. What this should come to is said without numbers: a month has a month after it and a
month before it, in December and in January those of another year, and so many months later is so
many times the next one. The two agree, since a step changes the number by one and no two months
share a number. From then on a date that is moved by months is known by two facts, the month that it
ends in and the day there, and how such dates are ordered and how far they go back again is read off
these.
-/
import FilterQuery.Proofs.Calendar.DayNumber
import FilterQuery.Proofs.Calendar.Widths
import Mathlib.Logic.Function.Iterate

set_option autoImplicit false

namespace FilterQuery.Calendar

/-! ## Months one after the other -/

/-- A month of a year, which need not be one of the calendar. -/
@[ext]
structure Month where
  year : Int
  month : Nat
  month_pos : 0 < month
  month_le : month ≤ 12
deriving DecidableEq, Repr

namespace Month

/-- The month after this one. -/
def next (m : Month) : Month :=
  if h : m.month < 12 then ⟨m.year, m.month + 1, Nat.succ_pos m.month, h⟩
  else ⟨m.year + 1, 1, Nat.one_pos, m.month_pos.trans_le m.month_le⟩

/-- The month before this one. -/
def previous (m : Month) : Month :=
  if h : 1 < m.month then
    ⟨m.year, m.month - 1, Nat.sub_pos_of_lt h, (Nat.sub_le m.month 1).trans m.month_le⟩
  else ⟨m.year - 1, 12, m.month_pos.trans_le m.month_le, Nat.le_refl 12⟩

/-- The month so many months after this one, or before it if the count is negative. -/
def later (m : Month) : Int → Month
  | .ofNat n => next^[n] m
  | .negSucc n => previous^[n + 1] m

/-- The number of days of the month. -/
def days (m : Month) : Nat :=
  daysInMonth m.year m.month

variable (m : Month)

/-- Every month has a first day. -/
theorem days_pos : 1 ≤ m.days := by
  have hdays := le_daysInMonth m.year m.month_pos m.month_le
  unfold days
  omega

/-! ## Months by their numbers -/

/-- The number of the month; January of the year 0 is month 0. -/
def number : Int :=
  m.year * 12 + (m.month - 1)

theorem number_next : m.next.number = m.number + 1 := by
  have hle := m.month_le
  unfold number next
  split <;> push_cast <;> omega

theorem number_previous : m.previous.number = m.number - 1 := by
  have hpos := m.month_pos
  unfold number previous
  split <;> push_cast <;> omega

/-- **Counting months on adds to their number.** -/
theorem number_later (n : Int) : (m.later n).number = m.number + n := by
  cases n with
  | ofNat n =>
    induction n generalizing m with
    | zero => exact (Int.add_zero m.number).symm
    | succ n ih =>
      have hrest := ih m.next
      rw [later] at hrest ⊢
      rw [Function.iterate_succ_apply, hrest, number_next, Int.ofNat_eq_natCast,
        Int.ofNat_eq_natCast]
      omega
  | negSucc n =>
    rw [later]
    induction n generalizing m with
    | zero => exact m.number_previous
    | succ n ih =>
      rw [Function.iterate_succ_apply, ih m.previous, number_previous]
      omega

/-- A number is that of one month only. -/
theorem number_injective : Function.Injective number := by
  intro m m' h
  have hm := m.month_pos
  have hm' := m'.month_pos
  have hle := m.month_le
  have hle' := m'.month_le
  unfold number at h
  ext <;> omega

/-- So many months on and as many back is the same month. -/
theorem later_later_neg (n : Int) : (m.later n).later (-n) = m := by
  refine number_injective ?_
  rw [number_later, number_later]
  omega

/-- The year and the month are found from the number by division. -/
theorem number_div_mod : m.number / 12 = m.year ∧ (m.number % 12).toNat + 1 = m.month := by
  have hpos := m.month_pos
  have hle := m.month_le
  unfold number
  omega

end Month

namespace Date

/-- The month of a date. -/
def toMonth (d : Date) : Month :=
  ⟨d.year, d.month, d.month_pos, d.month_le⟩

theorem number_toMonth (d : Date) : d.toMonth.number = d.monthNumber :=
  rfl

variable {d e r s : Date} {n : Int}

/-- A date is known by its month and its day. -/
theorem eq_of_toMonth_eq (hmonth : d.toMonth = e.toMonth) (hday : d.day = e.day) : d = e :=
  Date.ext (congrArg Month.year hmonth) (congrArg Month.month hmonth) hday

/-- Dates are ordered by their months, and within a month by their days. -/
theorem lt_iff_monthNumber_lt : d < e ↔
    d.monthNumber < e.monthNumber ∨ d.monthNumber = e.monthNumber ∧ d.day < e.day := by
  have hd := d.month_pos
  have hd' := d.month_le
  have he := e.month_pos
  have he' := e.month_le
  rw [lt_iff]
  unfold monthNumber
  omega

/-! ## Adding months -/

/-- A date in the month with a given number. -/
theorem inMonth?_number (m : Month) (day : Nat) :
    inMonth? m.number day = of? m.year m.month (min day m.days) := by
  unfold inMonth?
  dsimp only
  rw [m.number_div_mod.1, m.number_div_mod.2]
  rfl

/-- Adding months is counting them, and taking the last day where the day is missing. -/
theorem addMonths?_eq (d : Date) (n : Int) :
    d.addMonths? n = of? (d.toMonth.later n).year (d.toMonth.later n).month
      (min d.day (d.toMonth.later n).days) := by
  rw [addMonths?, ← number_toMonth, ← Month.number_later, inMonth?_number]

/-- **A date that is moved by months is known by its month and its day.** -/
theorem addMonths?_eq_some_iff : d.addMonths? n = some r ↔
    r.toMonth = d.toMonth.later n ∧ r.day = min d.day (d.toMonth.later n).days := by
  rw [addMonths?_eq, of?_eq_some_iff, Month.ext_iff, and_assoc]
  rfl

/-- **Months can be added as long as the year stays in the calendar.** -/
theorem exists_addMonths?_iff : (∃ r, d.addMonths? n = some r) ↔
    -9999 ≤ (d.toMonth.later n).year ∧ (d.toMonth.later n).year ≤ 9999 := by
  constructor
  · rintro ⟨r, hr⟩
    obtain ⟨hmonth, -⟩ := addMonths?_eq_some_iff.1 hr
    rw [← hmonth]
    exact ⟨r.year_ge, r.year_le⟩
  · rintro ⟨hge, hle⟩
    refine ⟨⟨_, _, min d.day (d.toMonth.later n).days, hge, hle, ?_, Nat.min_le_right _ _⟩,
      addMonths?_eq_some_iff.2 ⟨rfl, rfl⟩⟩
    exact Nat.le_min.2 ⟨d.day_pos, Month.days_pos _⟩

/-- The number of the month that a date is moved to. -/
theorem monthNumber_of_addMonths? (h : d.addMonths? n = some r) :
    r.monthNumber = d.monthNumber + n := by
  rw [← number_toMonth, (addMonths?_eq_some_iff.1 h).1, Month.number_later, number_toMonth]

/-- **Later dates are not overtaken** when both are moved by as many months. -/
theorem addMonths?_mono (hle : d ≤ e) (hr : d.addMonths? n = some r)
    (hs : e.addMonths? n = some s) : r ≤ s := by
  have hrnumber := monthNumber_of_addMonths? hr
  have hsnumber := monthNumber_of_addMonths? hs
  obtain ⟨-, hrday⟩ := addMonths?_eq_some_iff.1 hr
  obtain ⟨-, hsday⟩ := addMonths?_eq_some_iff.1 hs
  refine le_of_not_gt fun hlt => not_lt_of_ge hle ?_
  rw [lt_iff_monthNumber_lt] at hlt ⊢
  obtain hmonth | ⟨hmonth, hday⟩ := hlt
  · exact .inl (by omega)
  · -- Both have been moved to the same month, and so come from the same one.
    have hsame : d.toMonth = e.toMonth :=
      Month.number_injective (by rw [number_toMonth, number_toMonth]; omega)
    rw [hsame] at hrday
    exact .inr ⟨by omega, by omega⟩

/-- **More months lead to a later date.** -/
theorem addMonths?_strictMono {n' : Int} (hlt : n < n') (hr : d.addMonths? n = some r)
    (hs : d.addMonths? n' = some s) : r < s := by
  have hrnumber := monthNumber_of_addMonths? hr
  have hsnumber := monthNumber_of_addMonths? hs
  exact lt_iff_monthNumber_lt.2 (.inl (by omega))

/-- **Going back leads to the same month**, and there to the day that was reached. -/
theorem exists_addMonths?_neg (hr : d.addMonths? n = some r) :
    ∃ b, r.addMonths? (-n) = some b ∧ b.toMonth = d.toMonth ∧
      b.day = min d.day (d.toMonth.later n).days := by
  obtain ⟨hmonth, hday⟩ := addMonths?_eq_some_iff.1 hr
  have hback : r.toMonth.later (-n) = d.toMonth := by rw [hmonth, Month.later_later_neg]
  obtain ⟨b, hb⟩ := (exists_addMonths?_iff (d := r) (n := -n)).2 (by
    rw [hback]
    exact ⟨d.year_ge, d.year_le⟩)
  obtain ⟨hbmonth, hbday⟩ := addMonths?_eq_some_iff.1 hb
  rw [hback] at hbmonth hbday
  have hle : d.day ≤ d.toMonth.days := d.day_le
  exact ⟨b, hb, hbmonth, by omega⟩

/-- **Adding months is exact and keeps the order of dates.** Let `m` be the month that is reached by
counting. There is a date if and only if the calendar has the year of `m`, and then it lies in `m`,
on the same day if `m` has that day and else on its last day. Dates that are moved by as many months
stay in order, and a date that is moved by more months comes out strictly later. Moved back, a date
is what it was, unless the day was missing in `m`; then it is an earlier day of the month that it
was in. And no integer overflows on the way, for counts as large as they ever get. -/
theorem addMonths?_exact (d : Date) (n : Int) :
    let m := d.toMonth.later n
    ((∃ r, d.addMonths? n = some r) ↔ -9999 ≤ m.year ∧ m.year ≤ 9999) ∧
    (∀ r, d.addMonths? n = some r → r.toMonth = m ∧
      r.day = if d.day ≤ m.days then d.day else m.days) ∧
    (∀ e r s, d ≤ e → d.addMonths? n = some r → e.addMonths? n = some s → r ≤ s) ∧
    (∀ n' r s, n < n' → d.addMonths? n = some r → d.addMonths? n' = some s → r < s) ∧
    (∀ r, d.addMonths? n = some r → ∃ b, r.addMonths? (-n) = some b ∧
      (b = d ↔ d.day ≤ m.days) ∧
      (¬ d.day ≤ m.days → b.toMonth = d.toMonth ∧ b.day < d.day)) ∧
    (n.natAbs ≤ 4788 → d.addMonthsKept n = .ok (d.addMonths? n)) := by
  intro m
  refine ⟨exists_addMonths?_iff, fun r hr => ?_, fun e r s => addMonths?_mono,
    fun n' r s => addMonths?_strictMono, fun r hr => ?_, fun hn => addMonthsKept_eq (by omega)⟩
  · obtain ⟨hmonth, hday⟩ := addMonths?_eq_some_iff.1 hr
    exact ⟨hmonth, hday.trans (Nat.min_def ..)⟩
  · obtain ⟨b, hb, hmonth, hday⟩ := exists_addMonths?_neg hr
    refine ⟨b, hb, ⟨?_, fun hle => ?_⟩, fun hmissing => ⟨hmonth, ?_⟩⟩
    · rintro rfl
      exact min_eq_left_iff.1 hday.symm
    · exact eq_of_toMonth_eq hmonth (hday.trans (Nat.min_eq_left hle))
    · rw [hday]
      exact Nat.lt_of_le_of_lt (Nat.min_le_right _ _) (Nat.lt_of_not_le hmissing)

/-- Over the beginning of the year 1 and back: the year before it is a leap year, in which two days
of January come to the same day of February. Beyond the last month of the calendar there is none. -/
theorem addMonths?_exact_leapDay :
    let january (day : Nat) (h : 1 ≤ day ∧ day ≤ 31) : Date :=
      ⟨1, 1, day, by decide, by decide, h.1, h.2⟩
    let leapDay : Date := ⟨0, 2, 29, by decide, by decide, by decide, by decide⟩
    let march : Date := ⟨0, 3, 31, by decide, by decide, by decide, by decide⟩
    let last : Date := ⟨9999, 12, 31, by decide, by decide, by decide, by decide⟩
    let thirtieth := january 30 (by decide)
    let thirtyFirst := january 31 (by decide)
    (thirtieth ≤ thirtyFirst ∧ thirtieth.addMonths? (-11) = some leapDay ∧
      thirtyFirst.addMonths? (-11) = some leapDay ∧ leapDay ≤ leapDay) ∧
    ((-11 : Int) < -10 ∧ thirtyFirst.addMonths? (-10) = some march ∧ leapDay < march) ∧
    (∃ b, leapDay.addMonths? 11 = some b ∧ b.toMonth = thirtyFirst.toMonth ∧
      b.day < thirtyFirst.day) ∧
    (¬ ∃ r, last.addMonths? 1 = some r) ∧
    last.addMonthsKept (-4788) = .ok (last.addMonths? (-4788)) := by
  intro january leapDay march last thirtieth thirtyFirst
  have hlater : thirtieth.addMonths? (-11) = some leapDay := by decide
  have hleap : thirtyFirst.addMonths? (-11) = some leapDay := by decide
  have hmarch : thirtyFirst.addMonths? (-10) = some march := by decide
  have hle : thirtieth ≤ thirtyFirst := by decide
  obtain ⟨-, -, hmono, -⟩ := addMonths?_exact thirtieth (-11)
  obtain ⟨-, -, -, hstrict, hback, -⟩ := addMonths?_exact thirtyFirst (-11)
  obtain ⟨hdefined, -⟩ := addMonths?_exact last 1
  obtain ⟨-, -, -, -, -, hkept⟩ := addMonths?_exact last (-4788)
  obtain ⟨b, hb, -, hearlier⟩ := hback leapDay hleap
  exact ⟨⟨hle, hlater, hleap, hmono thirtyFirst leapDay leapDay hle hlater hleap⟩,
    ⟨by decide, hmarch, hstrict (-10) leapDay march (by decide) hleap hmarch⟩,
    ⟨b, hb, hearlier (by decide)⟩, fun h => absurd (hdefined.1 h) (by decide), hkept (by decide)⟩

end Date

end FilterQuery.Calendar
