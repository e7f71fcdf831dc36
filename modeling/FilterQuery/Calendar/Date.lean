/-
Dates of the Gregorian calendar, extended backwards over the year zero.

A date is a year from -9999 to 9999, a month and a day of that month. Counting days from the first
of January of the year 1 gives every date a number, and arithmetic in days, weeks and weekdays is
arithmetic on that number. Arithmetic in months is not: it moves the month and then takes the last
day of the new month if the old day does not exist there.
-/
set_option autoImplicit false

namespace FilterQuery.Calendar

/-- Has the year a twenty-ninth of February? -/
def isLeapYear (year : Int) : Bool :=
  year % 4 == 0 && (year % 100 != 0 || year % 400 == 0)

/-- The number of days of a month; there are none in a month that does not exist. -/
def daysInMonth (year : Int) : Nat → Nat
  | 1 => 31
  | 2 => if isLeapYear year then 29 else 28
  | 3 => 31
  | 4 => 30
  | 5 => 31
  | 6 => 30
  | 7 => 31
  | 8 => 31
  | 9 => 30
  | 10 => 31
  | 11 => 30
  | 12 => 31
  | _ => 0

/-- Every month has 28 days, and some have more. -/
theorem le_daysInMonth (year : Int) {month : Nat} (hpos : 1 ≤ month) (hle : month ≤ 12) :
    28 ≤ daysInMonth year month := by
  fun_cases daysInMonth year month <;> grind

/-- A date of the calendar. -/
@[ext]
structure Date where
  year : Int
  month : Nat
  day : Nat
  year_ge : -9999 ≤ year
  year_le : year ≤ 9999
  day_pos : 1 ≤ day
  day_le : day ≤ daysInMonth year month
deriving DecidableEq, Repr

namespace Date

/-- The date of this year, month and day, if there is one. -/
def of? (year : Int) (month day : Nat) : Option Date :=
  if h : -9999 ≤ year ∧ year ≤ 9999 ∧ 1 ≤ day ∧ day ≤ daysInMonth year month then
    some ⟨year, month, day, h.1, h.2.1, h.2.2.1, h.2.2.2⟩
  else none

instance : Inhabited Date := ⟨⟨1, 1, 1, by decide, by decide, by decide, by decide⟩⟩

/-- **There is a date for every day of a month in range**, and it has these parts. -/
theorem of?_eq_some_iff {year : Int} {month day : Nat} {d : Date} :
    of? year month day = some d ↔ d.year = year ∧ d.month = month ∧ d.day = day := by
  unfold of?
  split
  · constructor
    · rintro h
      cases h
      exact ⟨rfl, rfl, rfl⟩
    · rintro ⟨hy, hm, hd⟩
      congr 1
      ext <;> simp [hy, hm, hd]
  · rename_i h
    simp only [reduceCtorEq, false_iff]
    rintro ⟨rfl, rfl, rfl⟩
    exact h ⟨d.year_ge, d.year_le, d.day_pos, d.day_le⟩

variable (d : Date)

/-- There are twelve months. -/
theorem month_le : d.month ≤ 12 := by
  have hpos := d.day_pos
  have hday := d.day_le
  refine Nat.le_of_not_lt fun h => ?_
  have hnone : daysInMonth d.year d.month = 0 := by
    unfold daysInMonth
    split <;> first | rfl | omega
  omega

/-- They are counted from one. -/
theorem month_pos : 1 ≤ d.month := by
  refine Nat.one_le_iff_ne_zero.2 fun h => ?_
  have hpos := d.day_pos
  have hday := d.day_le
  have hnone : daysInMonth d.year d.month = 0 := by
    rw [h]
    rfl
  omega

/-- No month has more than 31 days. -/
theorem day_le_thirtyOne : d.day ≤ 31 := by
  refine Nat.le_trans d.day_le ?_
  unfold daysInMonth
  split <;> first | decide | skip
  split <;> decide

end Date

/-! ## Day numbers -/

/-- The number of days from the first of January of the year 1 to the first of January of a year. -/
def daysBeforeYear (year : Int) : Int :=
  365 * (year - 1) + (year - 1) / 4 - (year - 1) / 100 + (year - 1) / 400

/-- The number of days of a year before a month of it. -/
def daysBeforeMonth (year : Int) : Nat → Nat
  | 0 => 0
  | m + 1 => daysBeforeMonth year m + daysInMonth year m

/-- The year in which the day with this number lies. Four centuries have 146097 days, so dividing
by their mean year is off by one at most. -/
def yearOfDay (n : Int) : Int :=
  let guess := 400 * (n - 1) / 146097 + 1
  if n ≤ daysBeforeYear guess then guess - 1
  else if daysBeforeYear (guess + 1) < n then guess + 1
  else guess

namespace Date

/-- The number of a date; the first of January of the year 1 is day 1. -/
def dayNumber (d : Date) : Int :=
  daysBeforeYear d.year + daysBeforeMonth d.year d.month + d.day

/-- The date with this number, if it is in range. -/
def ofDayNumber? (n : Int) : Option Date :=
  let year := yearOfDay n
  let dayOfYear := (n - daysBeforeYear year).toNat
  match (List.range' 1 12).find? fun m => dayOfYear ≤ daysBeforeMonth year (m + 1) with
  | some month => of? year month (dayOfYear - daysBeforeMonth year month)
  | none => none

/-- The day of the week, from 0 for Monday to 6 for Sunday. The first of January of the year 1 is a
Monday. -/
def weekday (d : Date) : Int :=
  (d.dayNumber - 1) % 7

/-! ## Arithmetic -/

/-- The date so many days later. -/
def addDays? (d : Date) (n : Int) : Option Date :=
  ofDayNumber? (d.dayNumber + n)

/-- The number of the month of a date; January of the year 0 is month 0. -/
def monthNumber (d : Date) : Int :=
  d.year * 12 + (d.month - 1)

/-- The date on this day of the month with this number, or on the last day of that month if the
month is too short. -/
def inMonth? (number : Int) (day : Nat) : Option Date :=
  let year := number / 12
  let month := (number % 12).toNat + 1
  of? year month (min day (daysInMonth year month))

/-- The date so many months later, on the same day of the month if there is one. -/
def addMonths? (d : Date) (n : Int) : Option Date :=
  inMonth? (d.monthNumber + n) d.day

/-- The date itself, or the Friday before it if it lies on a weekend. -/
def lastWeekday? (d : Date) : Option Date :=
  if 5 ≤ d.weekday then d.addDays? (4 - d.weekday) else some d

/-- The date so many weekdays later, counted from the last weekday up to the date. Five weekdays are
a whole week; the days left over lead past a weekend, of two days, if they end on one or wrap around
to an earlier day of the week. -/
def addWeekdays? (d : Date) (n : Int) : Option Date := do
  let start ← d.lastWeekday?
  let landed ← start.addDays? (n / 5 * 7 + n % 5)
  if 5 ≤ landed.weekday ∨ landed.weekday < start.weekday then landed.addDays? 2 else some landed

end Date

end FilterQuery.Calendar
