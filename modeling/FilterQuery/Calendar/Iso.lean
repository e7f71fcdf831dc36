/-
Dates and times in the interchange format of ISO 8601.

Unlike what is typed into a query, interchanged dates and times are of fixed width. Separators may
be left out, but then throughout; a negative year, or one written with a sign, has six digits; a
leap second counts as the second before it; an offset from universal time and annotations in
brackets are allowed and say nothing about a civil date or time, except that the letter `Z`, which
claims to know no civil time at all, is refused.
-/
import FilterQuery.Calendar.Reader

set_option autoImplicit false

namespace FilterQuery.Calendar.Iso

open Number (isDigits ofDigits signed)

/-- Reads a number of exactly `width` digits. -/
def readFixed? (width : Nat) (s : List Char) : Option (Nat × List Char) :=
  let digits := s.take width
  if digits.length = width && isDigits digits then some (ofDigits digits, s.drop width) else none

/-- Reads a number of two digits that is no greater than `limit`. -/
def readPair? (limit : Nat) (s : List Char) : Option (Nat × List Char) :=
  (readFixed? 2 s).filter (·.1 ≤ limit)

/-! ## Dates -/

/-- Reads a year: four digits, or a sign and six digits. There is no negative year zero. -/
def readYear? (s : List Char) : Option (Int × List Char) :=
  match s with
  | '+' :: r => (readFixed? 6 r).map fun (n, rest) => ((n : Int), rest)
  | '-' :: r => ((readFixed? 6 r).filter (·.1 ≠ 0)).map fun (n, rest) => (signed true n, rest)
  | _ => (readFixed? 4 s).map fun (n, rest) => ((n : Int), rest)

/-- Reads a hyphen if there should be one. -/
def readSeparator? (separator : Char) (wanted : Bool) (s : List Char) : Option (List Char) :=
  if wanted then
    match s with
    | c :: r => if c == separator then some r else none
    | [] => none
  else some s

/-- Reads a date. -/
def readDatePart? (s : List Char) : Option (Date × List Char) := do
  let (year, s) ← readYear? s
  let separated := s.head? == some '-'
  let (month, s) ← readPair? 12 (← readSeparator? '-' separated s)
  let (day, s) ← readPair? 31 (← readSeparator? '-' separated s)
  let date ← Date.of? year month day
  return (date, s)

/-! ## Times -/

/-- Does another field of a clock follow? If so, the text from its digits on. -/
def nextField? (separated : Bool) (s : List Char) : Option (List Char) :=
  if separated then (if s.head? == some ':' then some (s.drop 1) else none)
  else if (s.take 2).length = 2 && (s.take 2).all Char.isDigit then some s
  else none

/-- Reads a fraction of a second, if there is one, in nanoseconds. -/
def readFractionPart? (s : List Char) : Option (Nat × List Char) :=
  if s.head? == some '.' || s.head? == some ',' then
    let digits := ((s.drop 1).take 9).takeWhile Char.isDigit
    (readFraction? digits).map fun n => (n, s.drop (1 + digits.length))
  else some (0, s)

/-- Reads a clock. Was it written with separators? -/
def readClockPart? (s : List Char) : Option ((Time × Bool) × List Char) := do
  let (hour, s) ← readPair? 23 s
  let separated := s.head? == some ':'
  match nextField? separated s with
  | none => return ((← Time.of? hour 0 0 0, separated), s)
  | some s =>
    let (minute, s) ← readPair? 59 s
    match nextField? separated s with
    | none => return ((← Time.of? hour minute 0 0, separated), s)
    | some s =>
      let (second, s) ← readPair? 60 s
      let (nanosecond, s) ← readFractionPart? s
      return ((← Time.of? hour minute (min second 59) nanosecond, separated), s)

/-! ## What may follow -/

/-- Skips the digits of an offset after its sign. -/
def skipOffsetDigits? (seconds : Bool) (s : List Char) : Option (List Char) := do
  let (_, s) ← readPair? 25 s
  let separated := s.head? == some ':'
  match nextField? separated s with
  | none => return s
  | some s =>
    let (_, s) ← readPair? 59 s
    if !seconds then (if s.head? == some ':' then none else return s)
    else match nextField? separated s with
      | none => return s
      | some s =>
        let (_, s) ← readPair? 59 s
        return (← readFractionPart? s).2

/-- Skips an offset from universal time, if there is one. -/
def skipOffset? (s : List Char) : Option (List Char) :=
  match s with
  | 'Z' :: _ => none
  | 'z' :: _ => none
  | '+' :: r => skipOffsetDigits? true r
  | '-' :: r => skipOffsetDigits? true r
  | _ => some s

/-- Skips one part of the name of a time zone. -/
def skipZonePart? (s : List Char) : Option (List Char) :=
  match s with
  | c :: r =>
    if c.isAlpha || c == '_' || c == '.' then
      some (r.dropWhile fun c => c.isAlphanum || "_.+-".toList.contains c)
    else none
  | [] => none

/-- Skips further parts of the name of a time zone, at most as many as `parts` says. -/
def skipZoneParts? (s : List Char) : Nat → Option (List Char)
  | 0 => some s
  | parts + 1 =>
    match s with
    | '/' :: r => (skipZonePart? r).bind fun s => skipZoneParts? s parts
    | _ => some s

/-- Skips a closing bracket. -/
def skipBracket? (s : List Char) : Option (List Char) :=
  readSeparator? ']' true s

/-- Skips the annotation of a time zone, if that is what the text begins with. -/
def skipZone? (s : List Char) : Option (List Char) :=
  match s with
  | '[' :: r =>
    let inner := if r.head? == some '!' then r.drop 1 else r
    match inner with
    | '+' :: r => (skipOffsetDigits? false r).bind skipBracket?
    | '-' :: r => (skipOffsetDigits? false r).bind skipBracket?
    | _ =>
      (skipZonePart? inner).bind fun after =>
        if after.head? == some '=' then some s
        else (skipZoneParts? after after.length).bind skipBracket?
  | _ => some s

/-- Skips the value of an annotation: words with hyphens between them. -/
def skipWords? (s : List Char) : Nat → Option (List Char)
  | 0 => none
  | words + 1 =>
    match s.takeWhile Char.isAlphanum, s.dropWhile Char.isAlphanum with
    | [], _ => none
    | _, '-' :: r => skipWords? r words
    | _, r => some r

/-- Skips further annotations, at most as many as `count` says. One that must be understood is an
error, since none is. -/
def skipAnnotations? (s : List Char) : Nat → Option (List Char)
  | 0 => some s
  | count + 1 =>
    match s with
    | '[' :: c :: r =>
      if c.isLower || c == '_' then
        match r.dropWhile fun c => c.isLower || c.isDigit || c == '_' || c == '-' with
        | '=' :: r => (skipWords? r (r.length + 1)).bind fun s =>
            (skipBracket? s).bind fun s => skipAnnotations? s count
        | _ => none
      else none
    | '[' :: [] => none
    | _ => some s

/-- Skips the annotations after a date or a time. -/
def skipSuffix? (s : List Char) : Option (List Char) :=
  (skipZone? s).bind fun s => skipAnnotations? s s.length

/-! ## Whole texts -/

/-- Reads a date, and a time of day if there is one. -/
def readDateAndTime? (s : List Char) : Option ((Date × Option Time) × List Char) := do
  let (date, s) ← readDatePart? s
  match s with
  | [] => return ((date, none), [])
  | c :: r =>
    if c == ' ' || c == 'T' || c == 't' then
      let ((time, _), s) ← readClockPart? r
      let s ← skipSuffix? (← skipOffset? s)
      return ((date, some time), s)
    else return ((date, none), ← skipSuffix? s)

/-- What was read, if nothing is left of the text. -/
def whole {α : Type} : α × List Char → Option α
  | (x, []) => some x
  | _ => none

/-- Reads a text as a date; a time of day after it is left out. -/
def readDate? (s : List Char) : Option Date :=
  ((readDateAndTime? s).bind whole).map (·.1)

/-- Reads a text as a date with a time of day; a date alone means its midnight. -/
def readDateTime? (s : List Char) : Option DateTime :=
  ((readDateAndTime? s).bind whole).map fun (date, time) => ⟨date, time.getD Time.midnight⟩

/-- Could the digits without separators also begin a date without a year, or without a day? -/
def isAmbiguous (s : List Char) : Bool :=
  let afterHyphen (s : List Char) := if s.head? == some '-' then s.drop 1 else s
  let monthAndDay : Option Date := do
    let (month, s) ← readPair? 12 (if s.take 2 == ['-', '-'] then s.drop 2 else s)
    let (day, _) ← readPair? 31 (afterHyphen s)
    Date.of? 2024 month day
  let yearAndMonth : Option Date := do
    let (year, s) ← readYear? s
    let (month, _) ← readPair? 12 (afterHyphen s)
    Date.of? year month 1
  monthAndDay.isSome || yearAndMonth.isSome

/-- Reads a clock, and what may follow it. -/
def readBareTime? (s : List Char) : Option Time := do
  let ((time, separated), rest) ← readClockPart? s
  let afterOffset ← skipOffset? rest
  if !separated && isAmbiguous (s.take (s.length - afterOffset.length)) then none
  else whole (time, ← skipSuffix? afterOffset)

/-- Reads a text as a time of day; a date before it is left out. -/
def readTime? (s : List Char) : Option Time :=
  if s.head? == some 'T' || s.head? == some 't' then do
    let ((time, _), rest) ← readClockPart? (s.drop 1)
    whole (time, ← skipSuffix? (← skipOffset? rest))
  else match readDateAndTime? s with
    | some ((_, time), rest) => time.bind fun time => whole (time, rest)
    | none => readBareTime? s

end FilterQuery.Calendar.Iso
