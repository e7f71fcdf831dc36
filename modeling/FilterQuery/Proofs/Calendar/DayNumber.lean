/-
Days and their numbers.

Counting days is how dates are compared and moved, and it rests on two facts. The numbers of the
dates increase along the calendar, so that no two dates share one. And every number between that of
the first date and that of the last is found again by computing its year, from the mean length of a
year, and then its month. Together they say that moving a date by days is addition, and fails only
where the calendar ends.
-/
import FilterQuery.Calendar.Date
import Mathlib.Data.Int.ConditionallyCompleteOrder
import Mathlib.Data.Int.SuccPred
import Mathlib.Data.Prod.Lex
import Mathlib.Order.Monotone.Basic

set_option autoImplicit false

namespace FilterQuery.Calendar

/-! ## Years -/

/-- A year has 365 days, and a leap year one more. -/
theorem daysBeforeYear_succ (year : Int) :
    daysBeforeYear (year + 1) = daysBeforeYear year + if isLeapYear year then 366 else 365 := by
  have hleap : isLeapYear year = true ↔ year % 4 = 0 ∧ (year % 100 ≠ 0 ∨ year % 400 = 0) := by
    simp [isLeapYear]
  unfold daysBeforeYear
  split
  · rename_i h
    obtain ⟨hfour, hcentury⟩ := hleap.1 h
    omega
  · rename_i h
    have hcommon := mt hleap.2 h
    omega

theorem daysBeforeYear_strictMono : StrictMono daysBeforeYear := by
  refine strictMono_int_of_lt_succ fun year => ?_
  rw [daysBeforeYear_succ]
  split <;> omega

/-- **The year of a day is the one that it lies in.** -/
theorem day_in_year (n : Int) :
    daysBeforeYear (yearOfDay n) < n ∧ n ≤ daysBeforeYear (yearOfDay n + 1) := by
  -- The guess is within a year of the mark, whatever leap days are before it.
  have hguess : let guess := 400 * (n - 1) / 146097 + 1
      daysBeforeYear (guess - 1) < n ∧ n ≤ daysBeforeYear (guess + 2) := by
    unfold daysBeforeYear
    omega
  obtain ⟨hlower, hupper⟩ := hguess
  unfold yearOfDay
  dsimp only at hlower hupper ⊢
  split
  · rename_i h
    rw [Int.sub_add_cancel]
    exact ⟨hlower, h⟩
  · rename_i h
    split
    · rename_i h'
      exact ⟨h', by rwa [Int.add_assoc]⟩
    · rename_i h'
      exact ⟨Int.lt_of_not_ge h, Int.le_of_not_gt h'⟩

/-! ## Months -/

theorem daysBeforeMonth_mono (year : Int) : Monotone (daysBeforeMonth year) :=
  monotone_nat_of_le_succ fun _ => Nat.le_add_right _ _

/-- The twelve months make up the year. -/
theorem daysBeforeMonth_thirteen (year : Int) :
    (daysBeforeMonth year 13 : Int) = daysBeforeYear (year + 1) - daysBeforeYear year := by
  rw [daysBeforeYear_succ]
  simp only [daysBeforeMonth, daysInMonth]
  split <;> omega

/-- **The month of a day is the one that it lies in**: the first that is not over before the day. -/
theorem exists_month (year : Int) {day : Nat} (hpos : 1 ≤ day)
    (hle : day ≤ daysBeforeMonth year 13) :
    ∃ month, (List.range' 1 12).find? (fun m => day ≤ daysBeforeMonth year (m + 1)) = some month ∧
      daysBeforeMonth year month < day ∧ day ≤ daysBeforeMonth year (month + 1) := by
  cases hfind : (List.range' 1 12).find? (fun m => day ≤ daysBeforeMonth year (m + 1)) with
  | none =>
    have hover : daysBeforeMonth year 13 < day := by
      simpa only [decide_eq_true_eq, Nat.not_le] using List.find?_eq_none.1 hfind 12 (by decide)
    omega
  | some month =>
    obtain ⟨hwithin, -, hearlier⟩ := List.find?_range'_eq_some.1 hfind
    refine ⟨month, rfl, ?_, of_decide_eq_true hwithin⟩
    obtain _ | _ | month := month
    · exact hpos
    · exact hpos
    · -- The month before has been passed over.
      have hover := hearlier (month + 1) (by omega) (by omega)
      rwa [Bool.not_eq_true', decide_eq_false_iff_not, Nat.not_le] at hover

namespace Date

/-! ## The order of dates -/

/-- What dates are compared by. -/
def key (d : Date) : Int ×ₗ (Nat ×ₗ Nat) :=
  toLex (d.year, toLex (d.month, d.day))

theorem key_injective : Function.Injective key := by
  intro d e h
  have hkey : (d.year, d.month, d.day) = (e.year, e.month, e.day) := h
  exact Date.ext (congrArg Prod.fst hkey) (congrArg (·.2.1) hkey) (congrArg (·.2.2) hkey)

instance : LinearOrder Date :=
  LinearOrder.lift' key key_injective

theorem lt_iff {d e : Date} : d < e ↔ d.year < e.year ∨ d.year = e.year ∧
    (d.month < e.month ∨ d.month = e.month ∧ d.day < e.day) := by
  refine Prod.Lex.toLex_lt_toLex.trans ?_
  rw [Prod.Lex.toLex_lt_toLex]

/-! ## Dates by their numbers -/

variable {d e : Date} {n : Int}

/-- The number of a date is among those of its year. -/
theorem dayNumber_in_year (d : Date) :
    daysBeforeYear d.year < d.dayNumber ∧ d.dayNumber ≤ daysBeforeYear (d.year + 1) := by
  have hpos := d.day_pos
  have hday : daysBeforeMonth d.year d.month + d.day ≤ daysBeforeMonth d.year (d.month + 1) :=
    Nat.add_le_add_left d.day_le _
  have hmonth : daysBeforeMonth d.year (d.month + 1) ≤ daysBeforeMonth d.year 13 :=
    daysBeforeMonth_mono d.year (Nat.succ_le_succ d.month_le)
  have hyear := daysBeforeMonth_thirteen d.year
  unfold dayNumber
  omega

/-- **The numbers of dates increase along the calendar.** -/
theorem dayNumber_strictMono : StrictMono dayNumber := by
  intro d e h
  obtain hyear | ⟨hyear, hmonth | ⟨hmonth, hday⟩⟩ := lt_iff.1 h
  · have hd := (dayNumber_in_year d).2
    have he := (dayNumber_in_year e).1
    have hbetween := daysBeforeYear_strictMono.monotone (Int.add_one_le_iff.2 hyear)
    omega
  · -- The month of `d` is over before that of `e` begins.
    have hd := d.day_le
    have he := e.day_pos
    have hbetween := daysBeforeMonth_mono d.year (Nat.succ_le_iff.2 hmonth)
    rw [daysBeforeMonth] at hbetween
    unfold dayNumber
    rw [← hyear]
    omega
  · unfold dayNumber
    rw [hyear, hmonth]
    omega

/-- The number of the day before the first date. -/
theorem firstDay_le (d : Date) : daysBeforeYear (-9999) < d.dayNumber :=
  Int.lt_of_le_of_lt (daysBeforeYear_strictMono.monotone d.year_ge) (dayNumber_in_year d).1

/-- The number of the last date. -/
theorem le_lastDay (d : Date) : d.dayNumber ≤ daysBeforeYear 10000 :=
  Int.le_trans (dayNumber_in_year d).2 <|
    daysBeforeYear_strictMono.monotone (Int.add_le_add_right d.year_le 1)

/-- A date that is found by its number has that number. -/
theorem dayNumber_of_ofDayNumber? (h : ofDayNumber? n = some d) : d.dayNumber = n := by
  unfold ofDayNumber? at h
  dsimp only at h
  split at h
  · rename_i month hmonth
    obtain ⟨hyear, hm, hday⟩ := of?_eq_some_iff.1 h
    have hpos := d.day_pos
    have hlower := (day_in_year n).1
    unfold dayNumber
    rw [hyear, hm]
    omega
  · simp at h

/-- **Every number in range is that of a date**, which is found by it. -/
theorem exists_ofDayNumber? (hfirst : daysBeforeYear (-9999) < n)
    (hlast : n ≤ daysBeforeYear 10000) : ∃ d, ofDayNumber? n = some d := by
  obtain ⟨hlower, hupper⟩ := day_in_year n
  have hyear : -9999 ≤ yearOfDay n ∧ yearOfDay n ≤ 9999 := by
    constructor
    · have := daysBeforeYear_strictMono.lt_iff_lt.1 (Int.lt_of_lt_of_le hfirst hupper)
      omega
    · have := daysBeforeYear_strictMono.lt_iff_lt.1 (Int.lt_of_lt_of_le hlower hlast)
      omega
  have hlength := daysBeforeMonth_thirteen (yearOfDay n)
  obtain ⟨month, hmonth, hbegun, hwithin⟩ :=
    exists_month (yearOfDay n) (show 1 ≤ (n - daysBeforeYear (yearOfDay n)).toNat by omega)
      (by omega)
  rw [daysBeforeMonth] at hwithin
  unfold ofDayNumber?
  dsimp only
  rw [hmonth]
  exact ⟨⟨_, _, _, hyear.1, hyear.2, by omega, by omega⟩, of?_eq_some_iff.2 ⟨rfl, rfl, rfl⟩⟩

/-- **A date is found by its number, and by no other.** -/
theorem ofDayNumber?_eq_some_iff : ofDayNumber? n = some d ↔ d.dayNumber = n := by
  refine ⟨dayNumber_of_ofDayNumber?, ?_⟩
  rintro rfl
  obtain ⟨e, he⟩ := exists_ofDayNumber? (firstDay_le d) (le_lastDay d)
  rw [he, dayNumber_strictMono.injective (dayNumber_of_ofDayNumber? he)]

/-- **Moving a date by days adds them to its number.** -/
theorem addDays?_eq_some_iff : d.addDays? n = some e ↔ e.dayNumber = d.dayNumber + n :=
  ofDayNumber?_eq_some_iff

end Date

end FilterQuery.Calendar
