/-
Reading dates and times that are given in full.

A date is a year, a month and a day with hyphens between them, in at most four, two and two digits.
A clock is one to three fields of one or two digits between colons, and may end in a fraction of at
most nine digits. A fraction that is not zero needs the seconds before it.
-/
import FilterQuery.Calendar.Time
import FilterQuery.Number.Integer
import FilterQuery.Text.Blank
import FilterQuery.Text.Split

set_option autoImplicit false

namespace FilterQuery.Calendar

open Number (isDigits ofDigits signed takeSign)

/-! ## Dates -/

/-- Reads a number of at most `width` digits, with the blanks before it. -/
def readField? (width : Nat) (s : List Char) : Option (Nat × List Char) :=
  let t := s.dropWhile Text.isPatternBlank
  match (t.take width).takeWhile Char.isDigit with
  | [] => none
  | digits => some (ofDigits digits, t.drop digits.length)

/-- Reads a hyphen. -/
def readHyphen? : List Char → Option (List Char)
  | '-' :: r => some r
  | _ => none

/-- Reads a date: an optional sign, and the three numbers with hyphens between them. -/
def readDate? (s : List Char) : Option Date := do
  let (negative, unsigned) := takeSign s
  let (year, afterYear) ← readField? 4 unsigned
  let (month, afterMonth) ← readField? 2 (← readHyphen? afterYear)
  let (day, afterDay) ← readField? 2 (← readHyphen? afterMonth)
  if afterDay.isEmpty then Date.of? (signed negative year) month day else none

/-- Do the first ten characters have the form of a date, whatever the numbers in it? -/
def startsLikeDate : List Char → Bool
  | y₁ :: y₂ :: y₃ :: y₄ :: '-' :: m₁ :: m₂ :: '-' :: d₁ :: d₂ :: _ =>
    [y₁, y₂, y₃, y₄, m₁, m₂, d₁, d₂].all Char.isDigit
  | _ => false

/-! ## Clocks -/

/-- Reads a fraction of a second as nanoseconds: the digits are those of a number of nine digits, of
which zeros at the end may be left out. -/
def readFraction? (s : List Char) : Option Nat :=
  if isDigits s && s.length ≤ 9 then some (ofDigits (s ++ List.replicate (9 - s.length) '0'))
  else none

/-- Reads one field of a clock. -/
def readClockField? (s : List Char) : Option Nat :=
  if isDigits s && s.length ≤ 2 then some (ofDigits s) else none

/-- The time of one to three fields and a fraction. -/
def timeOfFields? (nanosecond : Nat) : List Nat → Option Time
  | [hour] => if nanosecond = 0 then Time.of? hour 0 0 0 else none
  | [hour, minute] => if nanosecond = 0 then Time.of? hour minute 0 0 else none
  | [hour, minute, second] => Time.of? hour minute second nanosecond
  | _ => none

/-- Reads a time of day. -/
def readClock? (s : List Char) : Option Time := do
  let (clock, fraction) := Text.cutAtFirst (· == '.') s
  let nanosecond ← match fraction with
    | some digits => readFraction? digits
    | none => some 0
  timeOfFields? nanosecond (← (Text.fields ':' clock).mapM readClockField?)

/-- Reads a date with a time of day. They are separated by a space or the letter `T`, after which
blanks may follow; a date alone means its midnight. -/
def readDateTime? (s : List Char) : Option DateTime := do
  let (datePart, timePart) := Text.cutAtFirst (fun c => c == ' ' || c == 'T') s
  let date ← readDate? datePart
  let time ← match timePart with
    | some clock => readClock? (Text.skipBlanks clock)
    | none => some Time.midnight
  some ⟨date, time⟩

end FilterQuery.Calendar
