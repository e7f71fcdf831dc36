/-
Tables written as text: rows of hexadecimal numbers.

A large table of a standard is kept as lines of text, in which a semicolon separates rows and a
space separates the numbers of a row. It is read once, when the program starts.
-/
set_option autoImplicit false

namespace FilterQuery.Text

/-- The value of a hexadecimal digit; what is no digit counts as zero. -/
def hexValue (c : Char) : Nat :=
  if c.isDigit then c.toNat - '0'.toNat
  else if 'A' ≤ c && c ≤ 'F' then c.toNat - 'A'.toNat + 10
  else if 'a' ≤ c && c ≤ 'f' then c.toNat - 'a'.toNat + 10
  else 0

/-- What has been read of a line: whole rows, whole numbers of the row at hand, and the number at
hand, each with the last one first. -/
structure HexReader where
  rows : List (List Nat) := []
  row : List Nat := []
  number : Nat := 0

namespace HexReader

/-- Ends a number. -/
def endNumber (r : HexReader) : HexReader :=
  { r with row := r.number :: r.row, number := 0 }

/-- Ends a row. -/
def endRow (r : HexReader) : HexReader :=
  let r := r.endNumber
  { r with rows := r.row.reverse :: r.rows, row := [] }

/-- Reads one character. -/
def push (r : HexReader) (c : Char) : HexReader :=
  if c == ';' then r.endRow
  else if c == ' ' then r.endNumber
  else { r with number := 16 * r.number + hexValue c }

end HexReader

/-- Reads a line of a table. -/
def readHexLine (s : String) : List (List Nat) :=
  (s.toList.foldl HexReader.push {}).endRow.rows.reverse

/-- Reads the lines of a table. -/
def readHexRows (lines : List String) : List (List Nat) :=
  lines.flatMap readHexLine

end FilterQuery.Text
