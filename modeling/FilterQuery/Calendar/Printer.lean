/-
The texts of dates and times.

There are two texts for a date. The one for a query counts the minus of a negative year among the
four places of the year; the one for a report writes a negative year with six digits. A clock is
written the same way in both: hours, minutes and seconds in two digits each, and the fraction of a
second, if there is one, without zeros at its end.
-/
import FilterQuery.Calendar.Time
import FilterQuery.Number.Integer

set_option autoImplicit false

namespace FilterQuery.Calendar

open Number (padded)

/-- A year, with so many places if it is not negative, and the digits of a negative one. -/
def showYear (negativeDigits : Nat) (year : Int) : String :=
  if year < 0 then "-" ++ padded negativeDigits year.natAbs else padded 4 year.natAbs

/-- The month and the day of a date, each with a hyphen before it. -/
def Date.monthAndDay (d : Date) : String :=
  "-" ++ padded 2 d.month ++ "-" ++ padded 2 d.day

/-- A date as it is written in a query. -/
def Date.literal (d : Date) : String :=
  showYear 3 d.year ++ d.monthAndDay

/-- A date as it is shown. -/
def Date.show (d : Date) : String :=
  showYear 6 d.year ++ d.monthAndDay

/-- A fraction of a second: nothing, or a point and up to nine digits, the last of which is not
zero. -/
def showFraction (nanosecond : Nat) : String :=
  if nanosecond = 0 then ""
  else "." ++ String.ofList (((padded 9 nanosecond).toList.reverse.dropWhile (· == '0')).reverse)

/-- A time of day as it is written and shown. -/
def Time.clock (t : Time) : String :=
  padded 2 t.hour ++ ":" ++ padded 2 t.minute ++ ":" ++ padded 2 t.second ++
    showFraction t.nanosecond

/-- A date with a time of day as it is written in a query. -/
def DateTime.literal (dt : DateTime) : String :=
  dt.date.literal ++ " " ++ dt.time.clock

/-- A date with a time of day as it is shown. -/
def DateTime.show (dt : DateTime) : String :=
  dt.date.show ++ "T" ++ dt.time.clock

end FilterQuery.Calendar
