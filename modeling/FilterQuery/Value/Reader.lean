/-
Reading the text of a value.

There is one reader for each kind of value that a filter can want. Each takes the text as it stood
in the query. Kinds that know relative dates are also given the time they are relative to, so
nothing here looks at a clock.
-/
import FilterQuery.Address.Email
import FilterQuery.Address.Url
import FilterQuery.Calendar.Reader
import FilterQuery.Query.Error
import FilterQuery.Value
import FilterQuery.Value.Error

set_option autoImplicit false

namespace FilterQuery

open Calendar (Date Time DateTime)

namespace Value

/-- Text, as it is. -/
def readText (s : String) : Except ValueError Value :=
  .ok (text s)

/-- An integer of 64 bits. -/
def readInt (s : String) : Except ValueError Value :=
  match Number.readInt64? (Text.trimChars s.toList) with
  | some n => .ok (int n)
  | none => .error (.notInteger s)

/-- A floating-point number. -/
def readFloat (s : String) : Except ValueError Value :=
  match Number.readDouble? (Text.trimChars s.toList) with
  | some x => .ok (float x)
  | none => .error (.notFloat s)

/-- An exact decimal, in the digits it is given in. -/
def readDecimal (s : String) : Except ValueError Value :=
  if Number.isDecimal (Text.trimChars s.toList) then .ok (decimal (Text.trim s))
  else .error (.notDecimal s)

/-- A text that some function accepts once it is trimmed. It is kept trimmed. -/
def readAccepted (accepts : List Char → Bool) (fault : ValueError) (s : String) :
    Except ValueError Value :=
  if accepts (Text.trimChars s.toList) then .ok (text (Text.trim s)) else .error fault

theorem readAccepted_eq_ok_iff {accepts : List Char → Bool} {fault : ValueError} {s : String}
    {v : Value} :
    readAccepted accepts fault s = .ok v ↔
      accepts (Text.trimChars s.toList) = true ∧ v = text (Text.trim s) := by
  unfold readAccepted
  split
  · rename_i haccepts
    rw [Except.ok.injEq, and_iff_right haccepts, eq_comm]
  · rename_i hrefuses
    exact iff_of_false nofun fun h => hrefuses h.1

/-- An address of electronic mail of at most 320 bytes. -/
def readEmail : String → Except ValueError Value :=
  readAccepted (fun t => byteLength t ≤ 320 && Address.isEmail t) .notEmail

/-- A locator of the web, with a host. -/
def readUrl : String → Except ValueError Value :=
  readAccepted Address.isUrl .notUrl

/-- The words for true. -/
def trueWords : List String :=
  ["1", "true", "t", "yes", "y", "on"]

/-- The words for false. -/
def falseWords : List String :=
  ["0", "false", "f", "no", "n", "off"]

/-- A truth value, in any mixture of cases. -/
def readBool (s : String) : Except ValueError Value :=
  let word := Text.lowercase s
  if trueWords.contains word then .ok (bool true)
  else if falseWords.contains word then .ok (bool false)
  else .error (.notBool s)

/-- A truth value that may also be unknown: blank text is read as empty text. -/
def readTristate (s : String) : Except ValueError Value :=
  if (Text.trimChars s.toList).isEmpty then .ok (text "") else readBool s

/-- One of the texts listed. -/
def readChoice (choices : List String) (s : String) : Except ValueError Value :=
  if choices.contains s then .ok (text s) else .error (.notChoice s)

/-- The relative date that a trimmed text gives, if it is none in full. The text `s` is what it was
before it was trimmed. -/
def readRelative (today : Date) (trimmed : List Char) (otherwise : ValueError) :
    Except ValueError Date :=
  let t := String.ofList trimmed
  if Calendar.startsLikeDate trimmed then .error (.noSuchDate t)
  else match Calendar.readRelativeDate today t with
    | .error fault => .error (.relativeDate t fault)
    | .ok none => .error otherwise
    | .ok (some d) => .ok d

/-- A date, in full or relative to today. -/
def readDate (today : Date) (s : String) : Except ValueError Value :=
  let t := Text.trimChars s.toList
  match Calendar.readDate? t with
  | some d => .ok (date d)
  | none => (readRelative today t (.notDate s)).map date

/-- A date with a time of day, in full, or a relative date at the present time of day. -/
def readDateTime (now : DateTime) (s : String) : Except ValueError Value :=
  let t := Text.trimChars s.toList
  match Calendar.readDateTime? t with
  | some dt => .ok (dateTime dt)
  | none => (readRelative now.date t (.notDateTime s)).map fun d => dateTime ⟨d, now.time⟩

/-- A time of day, or the present one. -/
def readTime (now : Time) (s : String) : Except ValueError Value :=
  let t := Text.trimChars s.toList
  if spells "now" t then .ok (time now)
  else match Calendar.readClock? t with
    | some clock => .ok (time clock)
    | none => .error (.notTime s)

end Value

end FilterQuery
