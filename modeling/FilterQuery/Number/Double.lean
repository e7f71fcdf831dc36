/-
Reading and writing floating-point numbers.

A double is written in plain positional notation, never with an exponent, in the fewest digits that
read back. A whole number has no point; zero keeps its sign; what is no number is written as `NaN`,
and the two infinities as `inf` and `-inf`. The reader takes numerals in ASCII digits and, in any
mixture of cases, `nan`, `inf` and `infinity`.
-/
import FilterQuery.Number.Numeral
import FilterQuery.Number.Shortest
import FilterQuery.Query.Word

set_option autoImplicit false

namespace FilterQuery.Number

/-! ## Writing -/

/-- What the bits of a double say. -/
inductive DoubleKind where
  | notANumber
  | infinite (negative : Bool)
  | zero (negative : Bool)
  | finite (negative : Bool) (magnitude : Binary)

/-- The number of fractions that a double can have, which is also the mantissa of a power of two. -/
def fractions : Nat := 0x10000000000000

/-- The number of exponents that a double can have. -/
def exponents : Nat := 0x800

/-- Takes the bits of a double apart: a sign, eleven bits of exponent and fifty-two of fraction. -/
def DoubleKind.ofBits (bits : Nat) : DoubleKind :=
  let negative := bits / (fractions * exponents) % 2 == 1
  let exponent := bits / fractions % exponents
  let fraction := bits % fractions
  if exponent + 1 = exponents then
    if fraction = 0 then infinite negative else notANumber
  else if exponent = 0 then
    if fraction = 0 then zero negative else finite negative ⟨fraction, -1074, false⟩
  else
    finite negative ⟨fractions + fraction, (exponent : Int) - 1075, fraction == 0 && exponent != 1⟩

/-- A decimal in positional notation. -/
def Scaled.positional (s : Scaled) : List Char :=
  let digits := Nat.toDigits 10 s.digits
  let places := (-s.exponent).toNat
  if places = 0 then digits ++ List.replicate s.exponent.toNat '0'
  else if places < digits.length then
    digits.take (digits.length - places) ++ '.' :: digits.drop (digits.length - places)
  else '0' :: '.' :: (List.replicate (places - digits.length) '0' ++ digits)

/-- Puts a minus before a text. -/
def withSign (negative : Bool) (s : List Char) : List Char :=
  if negative then '-' :: s else s

/-- A double as it is written. -/
def DoubleKind.show : DoubleKind → List Char
  | notANumber => "NaN".toList
  | infinite negative => withSign negative "inf".toList
  | zero negative => withSign negative ['0']
  | finite negative magnitude => withSign negative magnitude.shortest.positional

/-- A double as it is written. -/
def showDouble (x : Float) : String :=
  String.ofList (DoubleKind.ofBits x.toBits.toNat).show

/-! ## Reading -/

/-- The double nearest to `digits · 10 ^ exponent`. Beyond the range of doubles the answer is
decided by the number of digits, so that no large power of ten is worked out for it. -/
def nearestDouble (digits : Nat) (exponent : Int) : Float :=
  let magnitude := ((Nat.toDigits 10 digits).length : Int) + exponent
  if digits = 0 || magnitude < -330 then 0
  else if magnitude > 310 then 1 / 0
  else Float.ofScientific digits (exponent < 0) exponent.natAbs

/-- The double nearest to what a numeral stands for. -/
def Numeral.toDouble (n : Numeral) : Float :=
  let digits := ofDigits (n.whole ++ n.fraction)
  let exponent := signed n.exponentNegative (ofDigits n.exponent) - n.fraction.length
  let x := nearestDouble digits exponent
  if n.negative then -x else x

/-- Reads the word for an infinity or for what is no number, after an optional sign. -/
def readDoubleWord? (s : List Char) : Option Float :=
  let (negative, word) := takeSign s
  if spells "nan" word then some (0 / 0)
  else if spells "inf" word || spells "infinity" word then
    some (if negative then -(1 / 0) else 1 / 0)
  else none

/-- Reads a double. -/
def readDouble? (s : List Char) : Option Float :=
  match readNumeral? Char.isDigit s with
  | some n => some n.toDouble
  | none => readDoubleWord? s

end FilterQuery.Number
