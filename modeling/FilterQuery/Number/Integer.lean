/-
Whole numbers in decimal digits, and the integers of 64 bits among them.

The reader takes an optional sign and digits of ASCII only, and no number too large or too small for
64 bits.
-/
set_option autoImplicit false

namespace FilterQuery.Number

/-- The number that decimal digits stand for. -/
def ofDigits (s : List Char) : Nat :=
  s.foldl (fun n c => 10 * n + (c.toNat - '0'.toNat)) 0

/-- Is this one digit of ASCII or more, and nothing else? -/
def isDigits (s : List Char) : Bool :=
  !s.isEmpty && s.all Char.isDigit

/-- Takes the sign off a number: is it a minus, and what follows it? -/
def takeSign : List Char → Bool × List Char
  | '-' :: r => (true, r)
  | '+' :: r => (false, r)
  | s => (false, s)

/-- A number with a sign. -/
def signed (negative : Bool) (n : Nat) : Int :=
  if negative then -(n : Int) else n

/-- Reads a whole number with an optional sign. -/
def readInt? (s : List Char) : Option Int :=
  let (negative, digits) := takeSign s
  if isDigits digits then some (signed negative (ofDigits digits)) else none

/-- The integer of 64 bits that is this number, if there is one. -/
def toInt64? (n : Int) : Option Int64 :=
  if Int64.minValue.toInt ≤ n ∧ n ≤ Int64.maxValue.toInt then some (Int64.ofInt n) else none

/-- Reads an integer of 64 bits with an optional sign. -/
def readInt64? (s : List Char) : Option Int64 :=
  (readInt? s).bind toInt64?

/-- A number in at least `width` digits, filled up with zeros on the left. -/
def padded (width n : Nat) : String :=
  let digits := Nat.toDigits 10 n
  String.ofList (List.replicate (width - digits.length) '0' ++ digits)

/-- An integer of 64 bits in decimal digits. -/
def showInt64 (n : Int64) : String :=
  toString n.toInt

end FilterQuery.Number
