/-
Writing a query.

Each query has one canonical text: single spaces between nodes, no blank inside a comparison, small
letters for connectives and `null`, the first spelling of each operator, and quotes with as few
escapes as possible.
-/
import FilterQuery.Query.Syntax
import FilterQuery.Text.Quoted

set_option autoImplicit false

namespace FilterQuery

/-- The canonical text of a literal. -/
def Literal.render : Literal → String
  | bare text => text
  | quoted text => Text.quote text
  | null => "null"

/-- The canonical text of a statement. -/
def Statement.render : Statement → String
  | comparison name op value => name ++ op.symbol ++ value.render
  | flag name negated => (if negated then "!" else "") ++ name
  | freetext text => Text.quote text

mutual

/-- The canonical text of a node. -/
def Node.render : Node → String
  | .statement s => s.render
  | .connective k => k.word
  | .group nodes => "(" ++ " ".intercalate (Node.renderEach nodes) ++ ")"

/-- The canonical texts of some nodes. -/
def Node.renderEach : List Node → List String
  | [] => []
  | n :: ns => n.render :: Node.renderEach ns

end

/-- The canonical text of a query. -/
def Query.render (q : Query) : String :=
  " ".intercalate (Node.renderEach q.nodes)

end FilterQuery
