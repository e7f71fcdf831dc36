/-
The grammar of queries.

What the reader of queries accepts is described here without it, in three parts. A query is well
formed if its conditions and connectives alternate at every level and its words can be typed. Each
query has one list of tokens. And a text is a layout of some tokens if it writes them one after the
other, each in one of its spellings, with blanks between them as one likes.

Only in two places is a blank required, where two words would otherwise run together: before a
connective that follows a name or a bare value, and before a name that follows a connective. A
connective may touch a parenthesis or a quote.
-/
import FilterQuery.Query.Syntax
import FilterQuery.Text.Quoted

set_option autoImplicit false

namespace FilterQuery

open Text (isBlank)

/-! ## Well-formed queries -/

/-- Can the literal be written? A bare run must not be empty nor spell `null`. -/
def Literal.WellFormed : Literal → Prop
  | bare text =>
    text.toList ≠ [] ∧ (∀ c ∈ text.toList, isBareChar c = true) ∧ spells "null" text.toList = false
  | quoted _ => True
  | null => True

/-- Can the statement be written? -/
def Statement.WellFormed : Statement → Prop
  | comparison name _ value => isName name = true ∧ value.WellFormed
  | flag name _ => isName name = true
  | freetext _ => True

mutual

/-- A node that is a condition, well formed at every depth. -/
inductive IsCondition : Node → Prop
  | statement {s : Statement} (hs : s.WellFormed) : IsCondition (.statement s)
  | group {nodes : List Node} (h : IsExpression nodes) : IsCondition (.group nodes)

/-- Conditions with one connective between any two neighbours, at least one condition. -/
inductive IsExpression : List Node → Prop
  | one {n : Node} (hn : IsCondition n) : IsExpression [n]
  | join {n : Node} {ns : List Node} (k : Connective) (hn : IsCondition n) (hs : IsExpression ns) :
      IsExpression (n :: .connective k :: ns)

end

/-- An expression begins with a condition. -/
theorem IsExpression.ne_nil {ns : List Node} (h : IsExpression ns) : ns ≠ [] := by
  cases h <;> exact List.cons_ne_nil _ _

/-- A query with at least one condition, well formed at every depth. -/
def Query.WellFormed (q : Query) : Prop :=
  IsExpression q.nodes

mutual

/-- How deeply groups are nested in a node. -/
def Node.nesting : Node → Nat
  | .statement _ => 0
  | .connective _ => 0
  | .group nodes => Node.nestingEach nodes + 1

/-- How deeply groups are nested in any of the nodes. -/
def Node.nestingEach : List Node → Nat
  | [] => 0
  | n :: ns => max n.nesting (Node.nestingEach ns)

end

/-- How deeply groups are nested in a query. -/
def Query.nesting (q : Query) : Nat :=
  Node.nestingEach q.nodes

/-! ## Tokens -/

/-- The smallest parts of a text that mean something. -/
inductive Token where
  /-- An opening parenthesis. -/
  | opening
  /-- A closing parenthesis. -/
  | closing
  /-- The exclamation mark before a flag. -/
  | bang
  | name (text : String)
  | operator (op : Operator)
  | bare (text : String)
  | quoted (text : String)
  | null
  | connective (k : Connective)

/-- The token of a literal. -/
def Literal.token : Literal → Token
  | bare text => .bare text
  | quoted text => .quoted text
  | null => .null

/-- The tokens of a statement. -/
def Statement.tokens : Statement → List Token
  | comparison name op value => [.name name, .operator op, value.token]
  | flag name true => [.bang, .name name]
  | flag name false => [.name name]
  | freetext text => [.quoted text]

mutual

/-- The tokens of a node. -/
def Node.tokens : Node → List Token
  | .statement s => s.tokens
  | .connective k => [.connective k]
  | .group nodes => .opening :: (Node.tokensEach nodes ++ [.closing])

/-- The tokens of some nodes. -/
def Node.tokensEach : List Node → List Token
  | [] => []
  | n :: ns => n.tokens ++ Node.tokensEach ns

end

/-- The tokens of a query. -/
def Query.tokens (q : Query) : List Token :=
  Node.tokensEach q.nodes

/-! ## Spellings of tokens -/

/-- All spellings of an operator. -/
def Operator.spellings : Operator → List String
  | gte => [">=", "=>"]
  | lte => ["<=", "=<"]
  | op => [op.symbol]

/-- `Quoting text s`: between quotes, `s` writes the text. A backslash may stand alone only where
the character written next does not make an escape of it. -/
inductive Quoting : List Char → List Char → Prop
  | nil : Quoting [] []
  | plain {c : Char} {text s : List Char} (hc : Text.needsEscape c = false) (h : Quoting text s) :
      Quoting (c :: text) (c :: s)
  | escaped {c : Char} {text s : List Char} (hc : Text.needsEscape c = true) (h : Quoting text s) :
      Quoting (c :: text) ('\\' :: c :: s)
  | loneBackslash {c : Char} {text s : List Char} (hc : Text.needsEscape c = false)
      (h : Quoting text (c :: s)) : Quoting ('\\' :: text) ('\\' :: c :: s)

/-- `t.Writes s`: the token may be written as `s`. -/
inductive Token.Writes : Token → List Char → Prop
  | opening : Writes opening ['(']
  | closing : Writes closing [')']
  | bang : Writes bang ['!']
  | name (text : String) : Writes (name text) text.toList
  | operator {op : Operator} {symbol : String} (h : symbol ∈ op.spellings) :
      Writes (operator op) symbol.toList
  | bare (text : String) : Writes (bare text) text.toList
  | quoted {text : String} {s : List Char} (h : Quoting text.toList s) :
      Writes (quoted text) ('"' :: (s ++ ['"']))
  | null {s : List Char} (h : spells "null" s = true) : Writes null s
  | connective {k : Connective} {s : List Char} (h : spells k.word s = true) :
      Writes (connective k) s

/-! ## Layouts -/

/-- Would the two tokens run together without a blank between them? -/
def Token.needsBlank : Token → Token → Bool
  | name _, connective _ => true
  | bare _, connective _ => true
  | null, connective _ => true
  | connective _, name _ => true
  | _, _ => false

/-- Are all characters blank? -/
def IsBlankText (s : List Char) : Prop :=
  ∀ c ∈ s, isBlank c = true

/-- `Layout before tokens s`: `s` writes the tokens in order, with any blanks before, between and
after them, where `before` is the token in front of `s`, if there is one. -/
inductive Layout : Option Token → List Token → List Char → Prop
  | done {before : Option Token} {blanks : List Char} (hb : IsBlankText blanks) :
      Layout before [] blanks
  | token {before : Option Token} {t : Token} {ts : List Token} {blanks lexeme s : List Char}
      (hb : IsBlankText blanks) (hgap : ∀ u ∈ before, u.needsBlank t = true → blanks ≠ [])
      (ht : t.Writes lexeme) (hs : Layout (some t) ts s) :
      Layout before (t :: ts) (blanks ++ (lexeme ++ s))

/-- `q.Spelling s`: the text `s` spells the query. -/
def Query.Spelling (q : Query) (s : String) : Prop :=
  Layout none q.tokens s.toList

end FilterQuery
