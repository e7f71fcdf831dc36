/-
Quoted text.

A quoted text stands between double quotes. Only two characters need care inside: a double quote and
a backslash are written with a backslash before them. The reader is a little wider than the writer:
a backslash before any other character stands for itself, so a path typed with single backslashes
reads as it was typed.
-/
set_option autoImplicit false

namespace FilterQuery.Text

/-- Must the character be written with a backslash before it? -/
def needsEscape (c : Char) : Bool :=
  c == '"' || c == '\\'

theorem needsEscape_eq_false_iff {c : Char} : needsEscape c = false ↔ c ≠ '"' ∧ c ≠ '\\' := by
  simp [needsEscape]

/-- The characters between the quotes when a text is written. -/
def escapeQuoted (s : List Char) : List Char :=
  s.flatMap fun c => if needsEscape c then ['\\', c] else [c]

/-- A text between double quotes, in the form in which it reads back. -/
def quoteChars (s : List Char) : List Char :=
  '"' :: (escapeQuoted s ++ ['"'])

/-- A text between double quotes, in the form in which it reads back. -/
def quote (s : String) : String :=
  String.ofList (quoteChars s.toList)

/-- Reads the rest of a quoted text, of which `read` has been read, last character first. The answer
is the text and what follows the closing quote; there is none if no quote closes it. -/
def readQuotedFrom (read : List Char) : List Char → Option (List Char × List Char)
  | [] => none
  | '"' :: rest => some (read.reverse, rest)
  | '\\' :: '"' :: rest => readQuotedFrom ('"' :: read) rest
  | '\\' :: '\\' :: rest => readQuotedFrom ('\\' :: read) rest
  | c :: rest => readQuotedFrom (c :: read) rest

/-- Reads a quoted text that starts right after its opening quote. -/
def readQuoted (s : List Char) : Option (List Char × List Char) :=
  readQuotedFrom [] s

/-- A quoted text ends before the end of what is read. -/
theorem length_lt_of_readQuotedFrom {read s text rest : List Char}
    (h : readQuotedFrom read s = some (text, rest)) : rest.length < s.length := by
  fun_induction readQuotedFrom read s with
  | case1 => simp at h
  | case2 => simp at h; simp [h]
  | case3 _ _ ih => have := ih h; simp; omega
  | case4 _ _ ih => have := ih h; simp; omega
  | case5 _ _ _ _ _ _ ih => have := ih h; simp; omega

end FilterQuery.Text
