/-
Numerals with a fraction and an exponent.

A numeral is an optional sign, digits with at most one point among them and at least one digit
beside it, and then an optional exponent: an `e` in either case, an optional sign and at least one
digit. Which characters count as digits is a parameter, because an exact decimal may be typed in the
digits of any script while a floating-point number may not.
-/
import FilterQuery.Number.Integer
import FilterQuery.Text.Numeric

set_option autoImplicit false

namespace FilterQuery.Number

/-- The parts of a numeral. -/
structure Numeral where
  negative : Bool
  /-- The digits before the point. -/
  whole : List Char
  /-- The digits after the point. -/
  fraction : List Char
  exponentNegative : Bool
  /-- The digits of the exponent, none if there is no exponent. -/
  exponent : List Char

/-- Splits off the digits that a text begins with. -/
def takeDigits (isDigit : Char → Bool) (s : List Char) : List Char × List Char :=
  (s.takeWhile isDigit, s.dropWhile isDigit)

/-- Splits off a point and the digits after it, if the text begins with a point. -/
def takeFraction (isDigit : Char → Bool) : List Char → List Char × List Char
  | '.' :: r => takeDigits isDigit r
  | s => ([], s)

/-- Is this the letter before an exponent? -/
def isExponentMark (c : Char) : Bool :=
  c == 'e' || c == 'E'

/-- Reads a numeral whose digits are those that `isDigit` says. -/
def readNumeral? (isDigit : Char → Bool) (s : List Char) : Option Numeral :=
  let (negative, unsigned) := takeSign s
  let (whole, afterWhole) := takeDigits isDigit unsigned
  let (fraction, rest) := takeFraction isDigit afterWhole
  if whole.isEmpty && fraction.isEmpty then none
  else match rest with
    | [] => some ⟨negative, whole, fraction, false, []⟩
    | mark :: r =>
      let (exponentNegative, exponent) := takeSign r
      if isExponentMark mark && !exponent.isEmpty && exponent.all isDigit then
        some ⟨negative, whole, fraction, exponentNegative, exponent⟩
      else none

/-- Is this an exact decimal? Its digits may be those of any script. -/
def isDecimal (s : List Char) : Bool :=
  (readNumeral? Text.isDecimalDigit s).isSome

end FilterQuery.Number
