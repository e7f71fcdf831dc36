/-
Times of day, and dates with a time of day.
-/
import FilterQuery.Calendar.Date

set_option autoImplicit false

namespace FilterQuery.Calendar

/-- A time of day, to the nanosecond. -/
structure Time where
  hour : Fin 24
  minute : Fin 60
  second : Fin 60
  nanosecond : Fin 1000000000
deriving DecidableEq, Repr, Inhabited

namespace Time

/-- The beginning of the day. -/
def midnight : Time := ⟨0, 0, 0, 0⟩

/-- The time with these parts, if there is one. -/
def of? (hour minute second nanosecond : Nat) : Option Time :=
  if h : hour < 24 ∧ minute < 60 ∧ second < 60 ∧ nanosecond < 1000000000 then
    some ⟨⟨hour, h.1⟩, ⟨minute, h.2.1⟩, ⟨second, h.2.2.1⟩, ⟨nanosecond, h.2.2.2⟩⟩
  else none

end Time

/-- A date with a time of day. -/
structure DateTime where
  date : Date
  time : Time
deriving DecidableEq, Repr, Inhabited

end FilterQuery.Calendar
