/-
The words of a query: names of filters, bare values and the reserved words.

A name is plain ASCII: a letter or an underscore, then letters, digits and `_ $ - .`. A bare value
may hold letters and digits of any script, and a plus sign besides. The words `and` and `or` are
reserved for connectives and `null` for the missing value, each in any mixture of capitals and small
letters.
-/
import FilterQuery.Text.Blank
import FilterQuery.Text.Numeric

set_option autoImplicit false

namespace FilterQuery

/-- May a name begin with this character? -/
def isNameStart (c : Char) : Bool :=
  c.isAlpha || c == '_'

/-- May this character stand in a name? -/
def isNameChar (c : Char) : Bool :=
  c.isAlphanum || c == '_' || c == '$' || c == '-' || c == '.'

/-- May this character stand in a bare value? -/
def isBareChar (c : Char) : Bool :=
  Text.isAlphanumeric c || c == '_' || c == '$' || c == '-' || c == '.' || c == '+'

/-- Does the text spell the word, which is given in small letters, in any mixture of cases? -/
def spells (word : String) (s : List Char) : Bool :=
  s.map Char.toLower == word.toList

/-- The words that join conditions and so cannot be names. -/
def reservedWords : List String :=
  ["and", "or"]

/-- The reserved word that a text spells, if it spells one. -/
def reservedWord? (s : List Char) : Option String :=
  reservedWords.find? (spells · s)

/-- Can the characters be typed as the name of a filter? -/
def isNameText : List Char → Bool
  | [] => false
  | c :: r => isNameStart c && r.all isNameChar && (reservedWord? (c :: r)).isNone

/-- Can the text be typed as the name of a filter? -/
def isName (s : String) : Bool :=
  isNameText s.toList

/-- Whatever may begin a name may also continue it. -/
theorem isNameChar_of_isNameStart {c : Char} (h : isNameStart c = true) : isNameChar c = true := by
  simp only [isNameStart, Bool.or_eq_true] at h
  rcases h with h | h <;> simp [isNameChar, Char.isAlphanum, h]

end FilterQuery
