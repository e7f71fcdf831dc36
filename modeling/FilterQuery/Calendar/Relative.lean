/-
Dates relative to today.

A relative date is a whole number and a unit, such as `3d`, `-1 week` or `2 quarters`, and may end
in `ago`, which negates the number. Three words stand for relative dates of their own: `yesterday`,
`today` (or `now`) and `tomorrow`. Every unit has a limit, so that no number takes the arithmetic
beyond the calendar by much.
-/
import FilterQuery.Calendar.Date
import FilterQuery.Number.Integer
import FilterQuery.Text.Blank
import FilterQuery.Text.Lowercase

set_option autoImplicit false

namespace FilterQuery.Calendar

/-- What a relative date counts in. -/
inductive DateUnit where
  | weekday
  | day
  | week
  | month
  | quarter
  | year
deriving DecidableEq, Repr

namespace DateUnit

/-- The greatest number of this unit that is accepted, in either direction. -/
def limit : DateUnit → Nat
  | weekday => 9999
  | day => 9999
  | week => 1999
  | month => 499
  | quarter => 166
  | year => 399

/-- The spellings of each unit. Some end in others, as `bd` does in `d`, so the order matters: the
first spelling that a text ends in says its unit. -/
def spellings : List (String × DateUnit) :=
  [("wd", weekday), ("weekday", weekday), ("weekdays", weekday), ("bd", weekday),
    ("bankday", weekday), ("bankdays", weekday),
    ("d", day), ("day", day), ("days", day),
    ("w", week), ("wk", week), ("week", week), ("weeks", week),
    ("m", month), ("mo", month), ("mon", month), ("month", month), ("months", month),
    ("q", quarter), ("quarter", quarter), ("quarters", quarter),
    ("y", year), ("yr", year), ("year", year), ("years", year)]

/-- The date so many units later. -/
def shift? (unit : DateUnit) (d : Date) (n : Int) : Option Date :=
  match unit with
  | weekday => d.addWeekdays? n
  | day => d.addDays? n
  | week => d.addDays? (n * 7)
  | month => d.addMonths? n
  | quarter => d.addMonths? (n * 3)
  | year => d.addMonths? (n * 12)

end DateUnit

/-- What is wrong with a relative date. -/
inductive RelativeFault where
  | notInteger (count : String)
  | tooBig (count : Int) (limit : Nat)
  | outOfRange
deriving DecidableEq, Repr

/-- A fault in words. -/
def RelativeFault.message : RelativeFault → String
  | notInteger count => s!"\"{count}\" is not an integer."
  | tooBig count limit => s!"{count} is too big (max is {limit})."
  | outOfRange => "It is out of range."

/-- The text before `ending`, if the text ends in that. -/
def dropEnding? (ending s : List Char) : Option (List Char) :=
  if s.drop (s.length - ending.length) == ending then some (s.take (s.length - ending.length))
  else none

/-- What the words for single days stand for. -/
def expandDayWord (s : List Char) : List Char :=
  if s == "today".toList || s == "now".toList then "0d".toList
  else if s == "yesterday".toList then "-1d".toList
  else if s == "tomorrow".toList then "1d".toList
  else s

/-- Takes `ago` off the end of a text, with the blanks and an underscore before it. Was it there? -/
def takeAgo (s : List Char) : Bool × List Char :=
  match dropEnding? "ago".toList s with
  | some before =>
    let t := Text.trimChars before
    (true, (dropEnding? ['_'] t).getD t)
  | none => (false, s)

/-- Takes the unit off the end of a text. -/
def takeUnit? (s : List Char) : Option (List Char × DateUnit) :=
  DateUnit.spellings.findSome? fun (spelling, unit) =>
    (dropEnding? spelling.toList s).map fun count => (count, unit)

/-- The date so many units from today, if the number is within the limit of the unit. -/
def countFrom (today : Date) (unit : DateUnit) (n : Int) : Except RelativeFault Date :=
  if unit.limit < n.natAbs then .error (.tooBig n unit.limit)
  else match unit.shift? today n with
    | some d => .ok d
    | none => .error .outOfRange

/-- Reads a text as a relative date. A text that ends in no unit is none, and not at fault. -/
def readRelativeDate (today : Date) (text : String) : Except RelativeFault (Option Date) :=
  let lowered := Text.lowercase (Text.trim text)
  let (negated, period) := takeAgo (expandDayWord lowered.toList)
  match takeUnit? period with
  | none => .ok none
  | some (count, unit) =>
    match Number.readInt64? (Text.trimChars count) with
    | none => .error (.notInteger (String.ofList count))
    | some n => (countFrom today unit (if negated then -n.toInt else n.toInt)).map some

end FilterQuery.Calendar
