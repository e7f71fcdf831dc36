/-
Counting weekdays.

Weekdays are added by weeks and the days left over, with a jump over the weekend where one is in the
way. What this should come to is said by counting dates one at a time: a whole set of dates on one
side, and its size on the other. Between the two stands how many weekdays there are up to a day with
a given number. Adding weekdays moves that count by as much as is added, whatever day of the week it
begins on and in either direction, and since it grows by one with every weekday and not otherwise,
the count fixes the date.
-/
import FilterQuery.Proofs.Calendar.DayNumber
import Mathlib.Algebra.Order.Interval.Finset.SuccPred
import Mathlib.Data.Int.Interval
import Mathlib.Data.Int.SuccPred
import Mathlib.Data.Set.Card

set_option autoImplicit false

namespace FilterQuery.Calendar

/-! ## Weekdays by their numbers -/

/-- How many weekdays there are among the days up to the one with this number, beginning with the
first of January of the year 1; before that day the count is negative. -/
def weekdaysUpTo (n : Int) : Int :=
  n / 7 * 5 + min (n % 7) 5

/-- A weekday adds one to the count, and a day of a weekend nothing. -/
theorem weekdaysUpTo_succ (n : Int) :
    weekdaysUpTo (n + 1) = weekdaysUpTo n + if n % 7 < 5 then 1 else 0 := by
  unfold weekdaysUpTo
  split <;> omega

/-- The weekdays among some days in a row. -/
theorem card_filter_weekdays (n : Int) (k : Nat) :
    (((Finset.Ioc n (n + k)).filter fun m => (m - 1) % 7 < 5).card : Int)
      = weekdaysUpTo (n + k) - weekdaysUpTo n := by
  induction k with
  | zero => simp
  | succ k ih =>
    have hlast : n + k + 1 ∉ (Finset.Ioc n (n + k)).filter fun m => (m - 1) % 7 < 5 := by
      simp
    rw [Nat.cast_succ, ← Int.add_assoc, ← Finset.insert_Ioc_right_eq_Ioc_add_one (by omega),
      Finset.filter_insert, Int.add_sub_cancel, weekdaysUpTo_succ]
    split
    · rw [Finset.card_insert_of_notMem hlast, Nat.cast_succ, ih]
      omega
    · rw [ih]
      omega

namespace Date

/-- Is the date on one of the days from Monday to Friday? -/
def IsWeekday (d : Date) : Prop :=
  d.weekday < 5

instance (d : Date) : Decidable d.IsWeekday :=
  inferInstanceAs (Decidable (_ < _))

/-- `d.CountsFrom a`: weekdays from `d` on are counted from `a`, which is `d` if that is a weekday,
and otherwise the last Friday before it. -/
def CountsFrom (d a : Date) : Prop :=
  (d.IsWeekday ∧ a = d) ∨ (¬ d.IsWeekday ∧ IsGreatest {x | x < d ∧ x.weekday = 4} a)

variable {d a r : Date} {n : Int}

/-- The dates with these numbers that are weekdays. -/
theorem ncard_weekdays {n n' : Int} (hfirst : daysBeforeYear (-9999) ≤ n)
    (hlast : n' ≤ daysBeforeYear 10000) (hle : n ≤ n') :
    ({x : Date | (n < x.dayNumber ∧ x.dayNumber ≤ n') ∧ x.IsWeekday}.ncard : Int)
      = weekdaysUpTo n' - weekdaysUpTo n := by
  obtain ⟨k, rfl⟩ := Int.le.dest hle
  have himage : dayNumber '' {x : Date | (n < x.dayNumber ∧ x.dayNumber ≤ n + k) ∧ x.IsWeekday}
      = (Finset.Ioc n (n + k)).filter fun m => (m - 1) % 7 < 5 := by
    ext m
    simp only [Set.mem_image, Set.mem_ofPred_eq, Finset.coe_filter, Finset.mem_Ioc]
    constructor
    · rintro ⟨x, ⟨hx, hweekday⟩, rfl⟩
      exact ⟨hx, hweekday⟩
    · rintro ⟨hm, hweekday⟩
      -- A number between two dates is that of a date.
      obtain ⟨x, hx⟩ := exists_ofDayNumber? (n := m) (by omega) (by omega)
      obtain rfl := dayNumber_of_ofDayNumber? hx
      exact ⟨x, ⟨hm, hweekday⟩, rfl⟩
  rw [← Set.ncard_image_of_injective _ dayNumber_strictMono.injective, himage,
    Set.ncard_coe_finset, card_filter_weekdays]

/-- The weekdays after a date, up to another. -/
theorem ncard_weekdays_after (h : a ≤ r) :
    ((Set.Ioc a r ∩ {x | x.IsWeekday}).ncard : Int)
      = weekdaysUpTo r.dayNumber - weekdaysUpTo a.dayNumber := by
  rw [← ncard_weekdays (firstDay_le a).le (le_lastDay r) (dayNumber_strictMono.monotone h)]
  simp only [dayNumber_strictMono.lt_iff_lt, dayNumber_strictMono.le_iff_le]
  rfl

/-- The weekdays from a date on, before another. -/
theorem ncard_weekdays_before (h : r ≤ a) :
    ((Set.Ico r a ∩ {x | x.IsWeekday}).ncard : Int)
      = weekdaysUpTo (a.dayNumber - 1) - weekdaysUpTo (r.dayNumber - 1) := by
  have hnumbers := dayNumber_strictMono.monotone h
  have hfirst := firstDay_le r
  have hlast := le_lastDay a
  rw [← ncard_weekdays (by omega) (by omega) (by omega)]
  simp only [Int.sub_one_lt_iff, Int.le_sub_one_iff, dayNumber_strictMono.lt_iff_lt,
    dayNumber_strictMono.le_iff_le]
  rfl

/-! ## Adding weekdays -/

/-- **There is always a weekday to count from**: the calendar does not begin on a weekend. -/
theorem exists_lastWeekday? (d : Date) :
    ∃ a, d.lastWeekday? = some a ∧ d.CountsFrom a ∧ a.IsWeekday ∧
      a.dayNumber ≤ d.dayNumber ∧ d.dayNumber - 2 ≤ a.dayNumber := by
  unfold lastWeekday?
  split
  · rename_i hweekend
    have hfirst := firstDay_le d
    have hlast := le_lastDay d
    have hmonday : daysBeforeYear (-9999) % 7 = 0 := by decide
    have hweekday : d.weekday = (d.dayNumber - 1) % 7 := rfl
    obtain ⟨a, ha⟩ := exists_ofDayNumber? (n := d.dayNumber + (4 - d.weekday)) (by omega) (by omega)
    have hnumber := dayNumber_of_ofDayNumber? ha
    have hfriday : a.weekday = 4 := by
      unfold weekday at hnumber hweekend ⊢
      omega
    refine ⟨a, ha, .inr ⟨Int.not_lt.2 hweekend, ⟨?_, hfriday⟩, ?_⟩, ?_, by omega, by omega⟩
    · exact dayNumber_strictMono.lt_iff_lt.1 (by omega)
    · rintro x ⟨hx, hxfriday⟩
      -- Between the two there are only days of the weekend.
      have hxnumber := dayNumber_strictMono hx
      refine dayNumber_strictMono.le_iff_le.1 ?_
      unfold weekday at hxfriday
      omega
    · unfold IsWeekday
      omega
  · rename_i hweekday
    have hd : d.IsWeekday := Int.lt_of_not_ge hweekday
    exact ⟨d, rfl, .inl ⟨hd, rfl⟩, hd, by omega, by omega⟩

/-- **Adding weekdays ends on a weekday and moves the count of weekdays by as much.** -/
theorem weekdaysUpTo_of_addWeekdays? (hd : d.lastWeekday? = some a) (ha : a.IsWeekday)
    (h : d.addWeekdays? n = some r) :
    r.IsWeekday ∧ weekdaysUpTo r.dayNumber = weekdaysUpTo a.dayNumber + n := by
  unfold addWeekdays? at h
  rw [hd, Option.bind_eq_bind, Option.bind_some] at h
  obtain ⟨landed, hlanded, hr⟩ := Option.bind_eq_some_iff.1 h
  rw [addDays?_eq_some_iff] at hlanded
  unfold IsWeekday at ha ⊢
  unfold weekdaysUpTo
  unfold weekday at ha hr ⊢
  split at hr
  · rw [addDays?_eq_some_iff] at hr
    omega
  · obtain rfl := Option.some.inj hr
    omega

/-- As many weekdays as are ever asked for can be added, except near the ends of the calendar. -/
theorem exists_addWeekdays? (hcount : n.natAbs ≤ 9999) (hfirst : -9900 ≤ d.year)
    (hlast : d.year ≤ 9900) : ∃ r, d.addWeekdays? n = some r := by
  obtain ⟨a, ha, -, -, hle, hge⟩ := exists_lastWeekday? d
  have hlower : daysBeforeYear (-9900) < d.dayNumber :=
    (daysBeforeYear_strictMono.monotone hfirst).trans_lt (dayNumber_in_year d).1
  have hupper : d.dayNumber ≤ daysBeforeYear 9901 :=
    (dayNumber_in_year d).2.trans (daysBeforeYear_strictMono.monotone (by omega))
  -- There are 99 years left at either end of the calendar, and at most 2000 weeks are needed.
  have hroom : daysBeforeYear (-9999) + 20000 ≤ daysBeforeYear (-9900) := by decide
  have hroom' : daysBeforeYear 9901 + 20000 ≤ daysBeforeYear 10000 := by decide
  obtain ⟨landed, hlanded⟩ := exists_ofDayNumber? (n := a.dayNumber + (n / 5 * 7 + n % 5))
    (by omega) (by omega)
  have hnumber := dayNumber_of_ofDayNumber? hlanded
  obtain ⟨r, hr⟩ := exists_ofDayNumber? (n := landed.dayNumber + 2) (by omega) (by omega)
  unfold addWeekdays?
  rw [ha]
  simp only [Option.bind_eq_bind, Option.bind_some, addDays?, hlanded]
  split
  · exact ⟨r, hr⟩
  · exact ⟨landed, rfl⟩

/-- A weekday is counted from itself. -/
theorem lastWeekday?_of_isWeekday (hd : d.IsWeekday) : d.lastWeekday? = some d :=
  if_neg (Int.not_le.2 hd)

/-- Before a weekday there is one less. -/
theorem IsWeekday.weekdaysUpTo_eq (hd : d.IsWeekday) :
    weekdaysUpTo d.dayNumber = weekdaysUpTo (d.dayNumber - 1) + 1 := by
  have hweekday : (d.dayNumber - 1) % 7 < 5 := hd
  have hsucc := weekdaysUpTo_succ (d.dayNumber - 1)
  rwa [Int.sub_add_cancel, if_pos hweekday] at hsucc

/-- The count of weekdays tells weekdays apart. -/
theorem eq_of_weekdaysUpTo_eq (ha : a.IsWeekday) (hr : r.IsWeekday)
    (h : weekdaysUpTo a.dayNumber = weekdaysUpTo r.dayNumber) : a = r := by
  refine dayNumber_strictMono.injective ?_
  unfold IsWeekday weekday at ha hr
  unfold weekdaysUpTo at h
  omega

theorem le_iff_weekdaysUpTo_le (ha : a.IsWeekday) (hr : r.IsWeekday) :
    a ≤ r ↔ weekdaysUpTo a.dayNumber ≤ weekdaysUpTo r.dayNumber := by
  rw [← dayNumber_strictMono.le_iff_le]
  unfold IsWeekday weekday at ha hr
  unfold weekdaysUpTo
  omega

/-- **Adding weekdays counts weekdays.** They are counted from the date itself, or from the Friday
before a weekend. Where adding `n` of them leads, there are as many weekdays on the way as `n` says:
after the start up to the end, or, going back, from the end up to before the start. There is such a
date wherever the calendar leaves room for 9999 weekdays. And on weekdays, adding some and then more
is adding all of them. -/
theorem addWeekdays?_counts (d : Date) (n : Int) :
    ∃ a, d.CountsFrom a ∧
      (∀ r, d.addWeekdays? n = some r → r.IsWeekday ∧
        (0 ≤ n → a ≤ r ∧ (Set.Ioc a r ∩ {x | x.IsWeekday}).ncard = n.natAbs) ∧
        (n < 0 → r < a ∧ (Set.Ico r a ∩ {x | x.IsWeekday}).ncard = n.natAbs)) ∧
      (n.natAbs ≤ 9999 → -9900 ≤ d.year → d.year ≤ 9900 → ∃ r, d.addWeekdays? n = some r) ∧
      (d.IsWeekday → ∀ m e r s, d.addWeekdays? m = some e → e.addWeekdays? n = some r →
        d.addWeekdays? (m + n) = some s → s = r) := by
  obtain ⟨a, hstart, hcounts, ha, -, -⟩ := exists_lastWeekday? d
  refine ⟨a, hcounts, fun r hr => ?_, exists_addWeekdays?, fun hd m e r s he hr hs => ?_⟩
  · obtain ⟨hweekday, hcount⟩ := weekdaysUpTo_of_addWeekdays? hstart ha hr
    refine ⟨hweekday, fun hn => ?_, fun hn => ?_⟩
    · have hle : a ≤ r := (le_iff_weekdaysUpTo_le ha hweekday).2 (by omega)
      have hncard := ncard_weekdays_after hle
      exact ⟨hle, by omega⟩
    · have hlt : r < a := lt_of_not_ge fun hle => by
        have := (le_iff_weekdaysUpTo_le ha hweekday).1 hle
        omega
      have hncard := ncard_weekdays_before hlt.le
      -- Both ends are weekdays, so leaving one out for the other makes no difference.
      have hbefore_a := ha.weekdaysUpTo_eq
      have hbefore_r := hweekday.weekdaysUpTo_eq
      exact ⟨hlt, by omega⟩
  · have hself := lastWeekday?_of_isWeekday hd
    obtain ⟨heweekday, hecount⟩ := weekdaysUpTo_of_addWeekdays? hself hd he
    obtain ⟨hrweekday, hrcount⟩ :=
      weekdaysUpTo_of_addWeekdays? (lastWeekday?_of_isWeekday heweekday) heweekday hr
    obtain ⟨hsweekday, hscount⟩ := weekdaysUpTo_of_addWeekdays? hself hd hs
    exact eq_of_weekdaysUpTo_eq hsweekday hrweekday (by omega)

/-- From a Saturday six weekdays back, over one more weekend; and from a Wednesday over a weekend
and back over two. -/
theorem addWeekdays?_counts_saturday :
    let saturday : Date := ⟨2024, 2, 3, by decide, by decide, by decide, by decide⟩
    let thursday : Date := ⟨2024, 1, 25, by decide, by decide, by decide, by decide⟩
    let wednesday : Date := ⟨2024, 1, 31, by decide, by decide, by decide, by decide⟩
    let monday : Date := ⟨2024, 2, 5, by decide, by decide, by decide, by decide⟩
    let tuesday : Date := ⟨2024, 1, 23, by decide, by decide, by decide, by decide⟩
    (∃ a, saturday.CountsFrom a ∧ thursday < a ∧
      saturday.addWeekdays? (-6) = some thursday ∧ thursday.IsWeekday ∧
      (Set.Ico thursday a ∩ {x | x.IsWeekday}).ncard = 6) ∧
    (∃ r, saturday.addWeekdays? 9999 = some r) ∧
    (wednesday.IsWeekday ∧ wednesday.addWeekdays? 3 = some monday ∧
      monday.addWeekdays? (-9) = some tuesday) ∧
    ∃ s, wednesday.addWeekdays? (3 + -9) = some s ∧ s = tuesday := by
  intro saturday thursday wednesday monday tuesday
  have hback : saturday.addWeekdays? (-6) = some thursday := by decide +kernel
  have hover : wednesday.addWeekdays? 3 = some monday := by decide +kernel
  have hover' : monday.addWeekdays? (-9) = some tuesday := by decide +kernel
  have hweekday : wednesday.IsWeekday := by decide +kernel
  obtain ⟨a, ha, hcounts, -, -⟩ := addWeekdays?_counts saturday (-6)
  obtain ⟨hthursday, -, hbefore⟩ := hcounts thursday hback
  obtain ⟨hlt, hncard⟩ := hbefore (by decide)
  obtain ⟨-, -, -, hexists, -⟩ := addWeekdays?_counts saturday 9999
  obtain ⟨-, -, -, -, hadd⟩ := addWeekdays?_counts wednesday (-9)
  obtain ⟨-, -, -, hexists', -⟩ := addWeekdays?_counts wednesday (3 + -9)
  obtain ⟨s, hs⟩ := hexists' (by decide) (by decide) (by decide)
  exact ⟨⟨a, ha, hlt, hback, hthursday, hncard⟩, hexists (by decide) (by decide) (by decide),
    ⟨hweekday, hover, hover'⟩, s, hs, hadd hweekday 3 monday tuesday s hover hover' hs⟩

end Date

end FilterQuery.Calendar
