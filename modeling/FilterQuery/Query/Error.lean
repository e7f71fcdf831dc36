/-
What can be wrong with the text of a query, and where.

The reader notices a fault with the unread part of the text in its hand, so a `Fault` keeps that
part and no offset. An offset in bytes is made of it once, at the end, by `Fault.locate`: it is what
the whole text is longer than its unread part.
-/
set_option autoImplicit false

namespace FilterQuery

/-- The limits within which a text is read as a query. -/
structure Limits where
  /-- How deeply groups may be nested. -/
  maxDepth : Nat := 64
  /-- How long a text may be, in bytes. -/
  maxLength : Nat := 65536
deriving DecidableEq, Repr, Inhabited

/-- Why a text is no query. -/
inductive SyntaxCause where
  | tooLong (limit : Nat)
  | tooDeep (limit : Nat)
  | expectedStatement
  | unexpectedChar (c : Char)
  | expectedName
  | reservedName (word : String)
  | expectedValue
  | unclosedQuote
  | emptyGroup
  | unclosedGroup
  | unbalanced
  | expectedConnective
deriving DecidableEq, Repr, Inhabited

/-- A cause in words, for whoever typed the query. -/
def SyntaxCause.message : SyntaxCause → String
  | tooLong limit => s!"query exceeds the maximum length of {limit} bytes"
  | tooDeep limit => s!"query nests deeper than {limit} levels"
  | expectedStatement => "expected a statement"
  | unexpectedChar c => s!"unexpected character '{c}'"
  | expectedName => "expected a filter name"
  | reservedName word => s!"'{word}' is a reserved word and cannot name a filter"
  | expectedValue => "expected a value after the operator"
  | unclosedQuote => "missing closing quote"
  | emptyGroup => "empty parentheses"
  | unclosedGroup => "missing closing ')'"
  | unbalanced => "unbalanced ')'"
  | expectedConnective => "expected 'and' or 'or'"

/-- The number of bytes of a text in UTF-8. -/
def byteLength (s : List Char) : Nat :=
  s.foldr (fun c n => c.utf8Size + n) 0

/-- A fault as the reader finds it: its cause, and the text from the place it is blamed on. -/
structure Fault where
  cause : SyntaxCause
  unread : List Char
deriving DecidableEq, Repr

/-- A fault as it is reported: its cause, and the offset in bytes it is blamed on. -/
structure ParseError where
  cause : SyntaxCause
  position : Nat
deriving DecidableEq, Repr, Inhabited

/-- The whole report of a fault. -/
def ParseError.message (e : ParseError) : String :=
  s!"{e.cause.message} (at byte {e.position})"

/-- Turns the unread part of `whole` into the offset at which it begins. -/
def Fault.locate (whole : List Char) (f : Fault) : ParseError :=
  ⟨f.cause, byteLength whole - byteLength f.unread⟩

end FilterQuery
