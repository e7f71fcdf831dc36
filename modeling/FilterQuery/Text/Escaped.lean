/-
Text as it is shown in a report.

A report puts a text between double quotes and keeps it on one line. A quote and a backslash get a
backslash, the four usual control characters their short escapes, and every other character that
could not be seen is shown by its code point in hexadecimal.
-/
import FilterQuery.Text.Visible

set_option autoImplicit false

namespace FilterQuery.Text

/-- The hexadecimal digits of a number, in small letters and without leading zeros. -/
def hexDigits (n : Nat) : List Char :=
  Nat.toDigits 16 n

/-- A character by its code point. -/
def showCodePoint (c : Char) : List Char :=
  '\\' :: 'u' :: '\x7b' :: (hexDigits c.toNat ++ ['\x7d'])

/-- A character as it is shown between double quotes. -/
def showChar (c : Char) : List Char :=
  if c = '\x00' then ['\\', '0']
  else if c = '\t' then ['\\', 't']
  else if c = '\n' then ['\\', 'n']
  else if c = '\r' then ['\\', 'r']
  else if c = '"' || c = '\\' then ['\\', c]
  else if isVisible c then [c]
  else showCodePoint c

/-- A text as it is shown, between double quotes and on one line. -/
def showText (s : String) : String :=
  String.ofList ('"' :: (s.toList.flatMap showChar ++ ['"']))

end FilterQuery.Text
