/-
The shape of a query.

A query is a flat list of nodes: conditions with connectives between them, in the order in which
they were typed. Nothing here knows which filters exist or how tightly a connective binds; names are
kept as typed and values stay text. A group in parentheses holds a list of the same shape.

Operators are the one place with two spellings for one meaning: `>=` and `=>` are the same operator,
and only the first of the two is ever written. `Operator.ofSymbol?_symbol` says that what is written
reads back.
-/
import FilterQuery.Query.Word

set_option autoImplicit false

namespace FilterQuery

/-- How a condition compares its filter with its value. -/
inductive Operator where
  | eq
  | gt
  | gte
  | lt
  | lte
  | contains
  | notEq
  | notContains
deriving DecidableEq, Repr, Inhabited

namespace Operator

/-- Every operator. -/
def all : List Operator :=
  [eq, gt, gte, lt, lte, contains, notEq, notContains]

/-- The spelling an operator is written with. -/
def symbol : Operator → String
  | eq => "="
  | gt => ">"
  | gte => ">="
  | lt => "<"
  | lte => "<="
  | contains => ":"
  | notEq => "!="
  | notContains => "!:"

/-- Reads the longest operator that a text starts with. The two comparisons that allow equality may
also be typed with the equality sign first. -/
def read? : List Char → Option (Operator × List Char)
  | '=' :: '>' :: rest => some (gte, rest)
  | '=' :: '<' :: rest => some (lte, rest)
  | '>' :: '=' :: rest => some (gte, rest)
  | '<' :: '=' :: rest => some (lte, rest)
  | '!' :: '=' :: rest => some (notEq, rest)
  | '!' :: ':' :: rest => some (notContains, rest)
  | '=' :: rest => some (eq, rest)
  | '<' :: rest => some (lt, rest)
  | '>' :: rest => some (gt, rest)
  | ':' :: rest => some (contains, rest)
  | _ => none

/-- The operator that a text spells, in any of its spellings. -/
def ofSymbol? (s : String) : Option Operator :=
  match read? s.toList with
  | some (op, []) => some op
  | _ => none

/-- **Every operator reads back from its own symbol.** -/
theorem ofSymbol?_symbol (op : Operator) : ofSymbol? op.symbol = some op := by
  cases op <;> decide

/-- An operator takes at least one character. -/
theorem length_lt_of_read? {s rest : List Char} {op : Operator} (h : read? s = some (op, rest)) :
    rest.length < s.length := by
  unfold read? at h
  split at h <;> simp only [Option.some.injEq, Prod.mk.injEq, reduceCtorEq] at h <;>
    (obtain ⟨-, rfl⟩ := h; simp only [List.length_cons]; omega)

end Operator

/-- What stands between two conditions. -/
inductive Connective where
  | and
  | or
deriving DecidableEq, Repr, Inhabited

namespace Connective

/-- The word a connective is written with. -/
def word : Connective → String
  | and => "and"
  | or => "or"

/-- How tightly a connective binds; `and` binds tighter than `or`. -/
def strength : Connective → Nat
  | and => 3
  | or => 2

end Connective

/-- The right-hand side of a comparison. Numbers, dates and truth values are not told apart here:
the filter decides how to read the text. -/
inductive Literal where
  /-- An unquoted run such as `1983`, `2014-03-07` or `end_date`. -/
  | bare (text : String)
  /-- Quoted text, with its escapes resolved. -/
  | quoted (text : String)
  /-- The unquoted word `null`. -/
  | null
deriving DecidableEq, Repr, Inhabited

/-- The text of a literal without its quotes. -/
def Literal.text : Literal → String
  | bare text => text
  | quoted text => text
  | null => "null"

/-- A condition that is no group. -/
inductive Statement where
  /-- A filter compared with a value, as in `year>=1983`. -/
  | comparison (name : String) (op : Operator) (value : Literal)
  /-- A filter's name alone, or with an exclamation mark before it. -/
  | flag (name : String) (negated : Bool)
  /-- Quoted text with no filter before it. -/
  | freetext (text : String)
deriving DecidableEq, Repr, Inhabited

/-- One element of a query. -/
inductive Node where
  | statement (s : Statement)
  | connective (k : Connective)
  /-- A query in parentheses. -/
  | group (nodes : List Node)
deriving Repr, Inhabited

/-! ## Telling nodes apart -/

mutual

/-- Decides whether two nodes are the same. -/
def Node.decEq : (m n : Node) → Decidable (m = n)
  | .statement s, .statement t => decidable_of_iff (s = t) (by simp)
  | .connective k, .connective l => decidable_of_iff (k = l) (by simp)
  | .group xs, .group ys =>
    match Node.decEqList xs ys with
    | .isTrue h => .isTrue (congrArg Node.group h)
    | .isFalse h => .isFalse fun e => h (Node.group.inj e)
  | .statement _, .connective _ => .isFalse nofun
  | .statement _, .group _ => .isFalse nofun
  | .connective _, .statement _ => .isFalse nofun
  | .connective _, .group _ => .isFalse nofun
  | .group _, .statement _ => .isFalse nofun
  | .group _, .connective _ => .isFalse nofun

/-- Decides whether two lists of nodes are the same. -/
def Node.decEqList : (xs ys : List Node) → Decidable (xs = ys)
  | [], [] => .isTrue rfl
  | [], _ :: _ => .isFalse nofun
  | _ :: _, [] => .isFalse nofun
  | x :: xs, y :: ys =>
    match Node.decEq x y, Node.decEqList xs ys with
    | .isTrue h, .isTrue hs => .isTrue (by rw [h, hs])
    | .isFalse h, _ => .isFalse fun e => h (List.cons.inj e).1
    | _, .isFalse hs => .isFalse fun e => hs (List.cons.inj e).2

end

instance instDecidableEqNode : DecidableEq Node := Node.decEq

/-! ## Whole queries -/

/-- A query as it was typed: conditions with connectives between them. -/
structure Query where
  nodes : List Node
deriving DecidableEq, Repr, Inhabited

/-- Has the query no conditions at all? -/
def Query.isEmpty (q : Query) : Bool :=
  q.nodes.isEmpty

end FilterQuery
