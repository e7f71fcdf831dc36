/-
Relative dates in integers of bounded width.

The arithmetic of relative dates is on integers without bounds. Here it is laid down once more on
integers of bounded width: what is typed has 64 bits and is negated in 128, days and months are
counted in 64, and a year and a month are held in 16 and 8. Every result that an operation leaves in
such an integer is checked, and one that does not fit stops the computation. The limits of the units
keep the numbers so small that this never happens: a count that is beyond its limit is refused
before anything is computed from it, and no other comes near the bounds.
-/
import FilterQuery.Calendar.Relative
import Mathlib.Algebra.Group.Int.Defs
import Mathlib.Algebra.Group.Nat.Defs

set_option autoImplicit false

namespace FilterQuery.Calendar

/-! ## Integers of bounded width -/

/-- Does an integer of so many bits, one of which is the sign, hold this number? -/
def Fits (bits : Nat) (n : Int) : Prop :=
  -2 ^ (bits - 1) ≤ n ∧ n < 2 ^ (bits - 1)

instance (bits : Nat) (n : Int) : Decidable (Fits bits n) :=
  inferInstanceAs (Decidable (_ ∧ _))

theorem fits_of_natAbs_lt {k : Nat} {n : Int} (h : n.natAbs < 2 ^ k) : Fits (k + 1) n := by
  have hcast : ((2 ^ k : Nat) : Int) = 2 ^ k := by simp
  unfold Fits
  rw [Nat.add_sub_cancel, ← hcast]
  omega

/-- A result that does not fit where it was to be kept. -/
structure Overflow where
  bits : Nat
  value : Int
deriving DecidableEq, Repr

/-- The result of an operation on integers of so many bits. -/
def kept (bits : Nat) (n : Int) : Except Overflow Int :=
  if Fits bits n then .ok n else .error ⟨bits, n⟩

/-- A number converted to so many bits, where not fitting is an answer and no overflow. -/
def narrow? (bits : Nat) (n : Int) : Option Int :=
  if Fits bits n then some n else none

/-- What fits is kept as it is. -/
theorem kept_bind {α : Type} {bits : Nat} {n : Int} (h : Fits bits n)
    (f : Int → Except Overflow α) : (kept bits n >>= f) = f n := by
  rw [kept, if_pos h]
  rfl

theorem narrow?_of_fits {bits : Nat} {n : Int} (h : Fits bits n) : narrow? bits n = some n :=
  if_pos h

/-! ## Months and weekdays -/

namespace Date

/-- `addMonths?`, with the number of the month in 64 bits. The year and the month that it comes to
are narrowed before there is a date. -/
def addMonthsKept (d : Date) (n : Int) : Except Overflow (Option Date) := do
  let months ← kept 64 (d.year * 12)
  let earlier ← kept 8 (d.month - 1)
  let number ← kept 64 (months + earlier)
  let moved ← kept 64 (number + n)
  let following ← kept 64 (moved % 12 + 1)
  return do
    let year ← narrow? 16 (moved / 12)
    let month ← narrow? 8 following
    let first ← of? year month.toNat 1
    of? year month.toNat (min d.day (daysInMonth first.year first.month))

/-- `addWeekdays?`, with the days of the week in 8 bits and everything else in 64. -/
def addWeekdaysKept (d : Date) (n : Int) : Except Overflow (Option Date) := do
  let weeks ← kept 64 (n / 5)
  let days ← kept 64 (n % 5)
  let late ← kept 8 (d.weekday - 4)
  let back ← kept 64 (-late)
  let weekDays ← kept 64 (weeks * 7)
  let ahead ← kept 64 (weekDays + days)
  return do
    let start ← (if 5 ≤ d.weekday then d.addDays? back else some d)
    let landed ← start.addDays? ahead
    if 5 ≤ landed.weekday ∨ landed.weekday < start.weekday then landed.addDays? 2 else some landed

variable {d : Date} {n : Int}

/-- Every month has a first day. -/
theorem of?_first {year : Int} {month : Nat} (hyear : -9999 ≤ year ∧ year ≤ 9999)
    (hmonth : 1 ≤ month ∧ month ≤ 12) :
    ∃ first, of? year month 1 = some first ∧ first.year = year ∧ first.month = month := by
  have hdays := le_daysInMonth year hmonth.1 hmonth.2
  exact ⟨⟨year, month, 1, hyear.1, hyear.2, Nat.le_refl 1, by omega⟩,
    of?_eq_some_iff.2 ⟨rfl, rfl, rfl⟩, rfl, rfl⟩

theorem of?_eq_none_of_year {year : Int} (h : ¬ (-9999 ≤ year ∧ year ≤ 9999)) (month day : Nat) :
    of? year month day = none :=
  dif_neg fun hdate => h ⟨hdate.1, hdate.2.1⟩

/-- **Narrowing loses no date**: a year that 16 bits do not hold is in no calendar, and a month
always fits. -/
theorem inMonth?_eq_narrowed (number : Int) (day : Nat) :
    inMonth? number day = (do
      let year ← narrow? 16 (number / 12)
      let month ← narrow? 8 (number % 12 + 1)
      let first ← of? year month.toNat 1
      of? year month.toNat (min day (daysInMonth first.year first.month))) := by
  have hmonth : (number % 12 + 1).toNat = (number % 12).toNat + 1 := by omega
  have htwelve : 1 ≤ (number % 12).toNat + 1 ∧ (number % 12).toNat + 1 ≤ 12 := by omega
  have hmonthFits : Fits 8 (number % 12 + 1) := fits_of_natAbs_lt (by omega)
  unfold inMonth?
  dsimp only
  by_cases hyear : -9999 ≤ number / 12 ∧ number / 12 ≤ 9999
  · have hyearFits : Fits 16 (number / 12) := fits_of_natAbs_lt (by omega)
    obtain ⟨first, hfirst, hfirstYear, hfirstMonth⟩ := of?_first hyear htwelve
    simp only [narrow?_of_fits hyearFits, narrow?_of_fits hmonthFits, Option.bind_eq_bind,
      Option.bind_some, hmonth, hfirst, hfirstYear, hfirstMonth]
  · rw [of?_eq_none_of_year hyear]
    unfold narrow?
    split
    · simp only [Option.bind_eq_bind, Option.bind_some,
        of?_eq_none_of_year hyear, Option.bind_none]
    · rfl

/-- **Adding months does not overflow**, if they are half of what 64 bits hold or fewer. -/
theorem addMonthsKept_eq (hn : n.natAbs < 2 ^ 62) : d.addMonthsKept n = .ok (d.addMonths? n) := by
  have hfirst := d.year_ge
  have hlast := d.year_le
  have hpos := d.month_pos
  have hmonths := d.month_le
  unfold addMonthsKept
  rw [kept_bind (fits_of_natAbs_lt (by omega)), kept_bind (fits_of_natAbs_lt (by omega)),
    kept_bind (fits_of_natAbs_lt (by omega)), kept_bind (fits_of_natAbs_lt (by omega)),
    kept_bind (fits_of_natAbs_lt (by omega)), addMonths?, monthNumber, inMonth?_eq_narrowed]
  rfl

/-- **Adding weekdays does not overflow** either. -/
theorem addWeekdaysKept_eq (hn : n.natAbs < 2 ^ 62) :
    d.addWeekdaysKept n = .ok (d.addWeekdays? n) := by
  have hweekday : 0 ≤ d.weekday ∧ d.weekday < 7 := by
    unfold weekday
    omega
  have hback : -(d.weekday - 4) = 4 - d.weekday := by omega
  unfold addWeekdaysKept
  rw [kept_bind (fits_of_natAbs_lt (by omega)), kept_bind (fits_of_natAbs_lt (by omega)),
    kept_bind (fits_of_natAbs_lt (by omega)), kept_bind (fits_of_natAbs_lt (by omega)),
    kept_bind (fits_of_natAbs_lt (by omega)), kept_bind (fits_of_natAbs_lt (by omega)), hback]
  rfl

end Date

/-! ## Counts -/

/-- `shift?`, with the days and months of a unit in 64 bits. -/
def DateUnit.shiftKept (unit : DateUnit) (d : Date) (n : Int) : Except Overflow (Option Date) :=
  match unit with
  | weekday => d.addWeekdaysKept n
  | day => .ok (d.addDays? n)
  | week => kept 64 (n * 7) >>= fun days => .ok (d.addDays? days)
  | month => d.addMonthsKept n
  | quarter => kept 64 (n * 3) >>= fun months => d.addMonthsKept months
  | year => kept 64 (n * 12) >>= fun months => d.addMonthsKept months

/-- `countFrom`, with the number that was typed in 64 bits. It is negated in 128 bits, since the
least integer of 64 bits has no opposite, and is back in 64 where the unit is counted. -/
def countKept (today : Date) (unit : DateUnit) (negated : Bool) (typed : Int64) :
    Except Overflow (Except RelativeFault Date) := do
  let wide ← kept 128 (if negated then -typed.toInt else typed.toInt)
  if unit.limit < wide.natAbs then
    return .error (.tooBig wide unit.limit)
  else
    match narrow? 64 wide with
    | none => return .error (.tooBig wide unit.limit)
    | some n =>
      match ← unit.shiftKept today n with
      | some d => return .ok d
      | none => return .error .outOfRange

/-- No unit admits a number of more than four digits. -/
theorem DateUnit.limit_le (unit : DateUnit) : unit.limit ≤ 9999 := by
  cases unit <;> decide

theorem DateUnit.shiftKept_eq (unit : DateUnit) (d : Date) {n : Int} (hn : n.natAbs ≤ 9999) :
    unit.shiftKept d n = .ok (unit.shift? d n) := by
  cases unit with
  | weekday => exact Date.addWeekdaysKept_eq (by omega)
  | day => rfl
  | week => exact kept_bind (fits_of_natAbs_lt (by omega)) _
  | month => exact Date.addMonthsKept_eq (by omega)
  | quarter =>
    exact (kept_bind (fits_of_natAbs_lt (by omega)) _).trans (Date.addMonthsKept_eq (by omega))
  | year =>
    exact (kept_bind (fits_of_natAbs_lt (by omega)) _).trans (Date.addMonthsKept_eq (by omega))

/-- **No count overflows**, the least integer of 64 bits and its opposite included, and what comes
out is what comes out without bounds. -/
theorem countKept_eq (today : Date) (unit : DateUnit) (negated : Bool) (typed : Int64) :
    countKept today unit negated typed
      = .ok (countFrom today unit (if negated then -typed.toInt else typed.toInt)) := by
  have hlower : -2 ^ 63 ≤ typed.toInt := typed.minValue_le_toInt
  have hupper : typed.toInt < 2 ^ 63 := typed.toInt_lt
  generalize hwide : (if negated then -typed.toInt else typed.toInt) = wide
  have hfits : Fits 128 wide := fits_of_natAbs_lt (by split at hwide <;> omega)
  unfold countKept countFrom
  rw [hwide, kept_bind hfits]
  split
  · rfl
  · rename_i hlimit
    have hsmall : wide.natAbs ≤ 9999 := Nat.le_trans (Nat.le_of_not_lt hlimit) unit.limit_le
    rw [narrow?_of_fits (fits_of_natAbs_lt (by omega))]
    dsimp only
    rw [unit.shiftKept_eq today hsmall]
    cases unit.shift? today wide <;> rfl

end FilterQuery.Calendar
