/-
Blank characters and trimming.

Blank means the Unicode property White_Space: twenty-five code points, so the set is a formula here
and not a table. Everything that is typed is trimmed by the same notion of blank that separates the
words of a query, which is why a text that trims to nothing is also a query without statements.
-/
set_option autoImplicit false

namespace FilterQuery.Text

/-- Is the character blank (property White_Space)? -/
def isBlank (c : Char) : Bool :=
  let n := c.toNat
  (0x09 ≤ n && n ≤ 0x0D) || n == 0x20 || n == 0x85 || n == 0xA0 || n == 0x1680 ||
    (0x2000 ≤ n && n ≤ 0x200A) || n == 0x2028 || n == 0x2029 || n == 0x202F || n == 0x205F ||
    n == 0x3000

/-- The text from its first character that is not blank on. -/
def skipBlanks (s : List Char) : List Char :=
  s.dropWhile isBlank

/-- The text without the blanks at its end. -/
def dropTrailingBlanks (s : List Char) : List Char :=
  (s.reverse.dropWhile isBlank).reverse

/-- The characters of a text without the blanks at its two ends. -/
def trimChars (s : List Char) : List Char :=
  dropTrailingBlanks (skipBlanks s)

/-- A text without the blanks at its two ends. -/
def trim (s : String) : String :=
  String.ofList (trimChars s.toList)

/-- Skipping blanks never makes a text longer. -/
theorem length_skipBlanks_le (s : List Char) : (skipBlanks s).length ≤ s.length :=
  (List.dropWhile_suffix _).length_le

/-- The blanks of ASCII as a date pattern counts them: space, tab, line feed, form feed and carriage
return, but not the vertical tab. -/
def isPatternBlank (c : Char) : Bool :=
  c == ' ' || c == '\t' || c == '\n' || c.toNat == 0x0C || c == '\r'

end FilterQuery.Text
