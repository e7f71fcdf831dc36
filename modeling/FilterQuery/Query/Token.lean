/-
Reading one token of a query.

Each reader is given the text where its token should begin and answers with what it read and the
text after it, or with the fault it found. No reader takes more than its token, so blanks are
skipped where tokens are put together. Apart from a connective, where a reader may stop without a
fault, every reader that succeeds has taken at least one character.
-/
import FilterQuery.Query.Error
import FilterQuery.Query.Syntax
import FilterQuery.Text.Quoted

set_option autoImplicit false

namespace FilterQuery

open Text (skipBlanks length_skipBlanks_le)

/-! ## Names -/

/-- Reads the name of a filter: as many name characters as there are, which must not spell a
reserved word. -/
def readName (s : List Char) : Except Fault (String × List Char) :=
  match s with
  | [] => .error ⟨.expectedName, s⟩
  | c :: r =>
    if isNameStart c then
      let name := c :: r.takeWhile isNameChar
      match reservedWord? name with
      | some word => .error ⟨.reservedName word, s⟩
      | none => .ok (String.ofList name, r.dropWhile isNameChar)
    else .error ⟨.expectedName, s⟩

/-- A name takes at least one character. -/
theorem length_lt_of_readName {s rest : List Char} {name : String}
    (h : readName s = .ok (name, rest)) : rest.length < s.length := by
  unfold readName at h
  split at h
  · simp at h
  · split at h
    · dsimp only at h
      split at h
      · simp at h
      · simp only [Except.ok.injEq, Prod.mk.injEq] at h
        have := (List.dropWhile_suffix (l := ‹List Char›) isNameChar).length_le
        simp only [← h.2, List.length_cons]
        omega
    · simp at h

/-! ## Values -/

/-- Reads a quoted text, from its opening quote on. -/
def readQuotedText (s : List Char) : Except Fault (String × List Char) :=
  match Text.readQuoted (s.drop 1) with
  | some (text, rest) => .ok (String.ofList text, rest)
  | none => .error ⟨.unclosedQuote, s⟩

/-- A quoted text takes at least its opening quote. -/
theorem length_lt_of_readQuotedText {s rest : List Char} {text : String}
    (h : readQuotedText s = .ok (text, rest)) : rest.length < s.length := by
  unfold readQuotedText at h
  split at h
  · rename_i hq
    simp only [Except.ok.injEq, Prod.mk.injEq] at h
    have := Text.length_lt_of_readQuotedFrom hq
    simp only [List.length_drop] at this
    rw [← h.2]
    omega
  · simp at h

/-- The literal that a bare run of characters stands for. -/
def bareLiteral (run : List Char) : Literal :=
  if spells "null" run then .null else .bare (String.ofList run)

/-- Reads the value of a comparison, with the blanks before it. -/
def readValue (s : List Char) : Except Fault (Literal × List Char) :=
  match skipBlanks s with
  | '"' :: r => (readQuotedText ('"' :: r)).map fun (text, rest) => (.quoted text, rest)
  | t =>
    match t.takeWhile isBareChar with
    | [] => .error ⟨.expectedValue, t⟩
    | run => .ok (bareLiteral run, t.dropWhile isBareChar)

/-- Reading a value never gives text back. -/
theorem length_le_of_readValue {s rest : List Char} {v : Literal}
    (h : readValue s = .ok (v, rest)) : rest.length ≤ s.length := by
  have hs := length_skipBlanks_le s
  unfold readValue at h
  split at h
  · rename_i r heq
    rw [heq] at hs
    cases hq : readQuotedText ('"' :: r) with
    | error f => simp [hq, Except.map] at h
    | ok p =>
      obtain ⟨text, rest'⟩ := p
      have := length_lt_of_readQuotedText hq
      simp [hq, Except.map] at h
      rw [← h.2]
      omega
  · split at h
    · simp at h
    · simp only [Except.ok.injEq, Prod.mk.injEq] at h
      have := (List.dropWhile_suffix (l := skipBlanks s) isBareChar).length_le
      rw [← h.2]
      omega

/-! ## Statements -/

/-- Reads what follows the name of a filter: an operator and a value, or nothing. -/
def readComparison (name : String) (s : List Char) : Except Fault (Statement × List Char) :=
  match Operator.read? (skipBlanks s) with
  | some (op, r) => (readValue r).map fun (value, rest) => (.comparison name op value, rest)
  | none => .ok (.flag name false, skipBlanks s)

/-- Reading a comparison never gives text back. -/
theorem length_le_of_readComparison {name : String} {s rest : List Char} {st : Statement}
    (h : readComparison name s = .ok (st, rest)) : rest.length ≤ s.length := by
  have hs := length_skipBlanks_le s
  unfold readComparison at h
  split at h
  · rename_i op r hop
    have hlt := Operator.length_lt_of_read? hop
    cases hv : readValue r with
    | error f => simp [hv, Except.map] at h
    | ok p =>
      obtain ⟨v, rest'⟩ := p
      have := length_le_of_readValue hv
      simp [hv, Except.map] at h
      rw [← h.2]
      omega
  · simp only [Except.ok.injEq, Prod.mk.injEq] at h
    rw [← h.2]
    exact hs

/-- Reads a statement, from its first character on. -/
def readStatement (s : List Char) : Except Fault (Statement × List Char) :=
  match s with
  | [] => .error ⟨.expectedStatement, s⟩
  | '"' :: _ => (readQuotedText s).map fun (text, rest) => (.freetext text, rest)
  | '!' :: r => (readName (skipBlanks r)).map fun (name, rest) => (.flag name true, rest)
  | c :: _ =>
    if isNameStart c then (readName s).bind fun (name, rest) => readComparison name rest
    else .error ⟨.unexpectedChar c, s⟩

/-- A statement takes at least one character. -/
theorem length_lt_of_readStatement {s rest : List Char} {st : Statement}
    (h : readStatement s = .ok (st, rest)) : rest.length < s.length := by
  unfold readStatement at h
  split at h
  · simp at h
  · rename_i r
    cases hq : readQuotedText ('"' :: r) with
    | error f => simp [hq, Except.map] at h
    | ok p =>
      have := length_lt_of_readQuotedText hq
      simp [hq, Except.map] at h
      rw [← h.2]
      exact this
  · rename_i r
    cases hn : readName (skipBlanks r) with
    | error f => simp [hn, Except.map] at h
    | ok p =>
      have := length_lt_of_readName hn
      have := length_skipBlanks_le r
      simp [hn, Except.map] at h
      rw [← h.2, List.length_cons]
      omega
  · rename_i c r _ _
    split at h
    · cases hn : readName (c :: r) with
      | error f => simp [hn, Except.bind] at h
      | ok p =>
        have := length_lt_of_readName hn
        simp only [hn, Except.bind] at h
        have := length_le_of_readComparison h
        omega
    · simp at h

/-! ## Connectives -/

/-- The text after `word`, if the text begins with that word, in any case, and it ends there. -/
def readWord? (word : String) (s : List Char) : Option (List Char) :=
  let n := word.length
  if spells word (s.take n) && !((s.drop n).head?.any isNameChar) then some (s.drop n) else none

/-- Reads a connective, if the text begins with one. -/
def Connective.read? (s : List Char) : Option (Connective × List Char) :=
  [Connective.and, Connective.or].findSome? fun k => (readWord? k.word s).map fun rest => (k, rest)

/-- A word that is read takes the characters it has. -/
theorem length_lt_of_readWord? {word : String} {s rest : List Char} (hw : 0 < word.length)
    (h : readWord? word s = some rest) : rest.length < s.length := by
  unfold readWord? at h
  dsimp only at h
  split at h
  · rename_i hc
    simp only [Option.some.injEq] at h
    simp only [Bool.and_eq_true, spells, beq_iff_eq] at hc
    have hlen := congrArg List.length hc.1
    simp only [List.length_map, List.length_take, String.length_toList] at hlen
    rw [← h, List.length_drop]
    omega
  · simp at h

/-- A connective takes at least one character. -/
theorem Connective.length_lt_of_read? {s rest : List Char} {k : Connective}
    (h : Connective.read? s = some (k, rest)) : rest.length < s.length := by
  unfold Connective.read? at h
  simp only [List.findSome?_cons, List.findSome?_nil] at h
  split at h
  · rename_i heq
    obtain ⟨r, hr, he⟩ := Option.map_eq_some_iff.1 heq
    cases h
    cases he
    exact length_lt_of_readWord? (by decide) hr
  · split at h
    · rename_i heq
      obtain ⟨r, hr, he⟩ := Option.map_eq_some_iff.1 heq
      cases h
      cases he
      exact length_lt_of_readWord? (by decide) hr
    · simp at h

end FilterQuery
