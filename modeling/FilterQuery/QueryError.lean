/-
Why a text cannot be compiled.

Every cause but the last is a fault of whoever typed the query. The last is a fault of the list of
nodes, which no text has: the reader never leaves a connective without a condition on each side.
-/
import FilterQuery.Query.Error
import FilterQuery.Query.Syntax
import FilterQuery.Value.Error

set_option autoImplicit false

namespace FilterQuery

/-- Why a text cannot be compiled. -/
inductive QueryError where
  /-- The text is no query. -/
  | notQuery (e : ParseError)
  /-- There is no such filter; the names that there are come in order. -/
  | unknownFilter (name : String) (available : List String)
  | notUnary (name : String)
  | noFreetextFilters
  | unknownValue (filter value : String)
  | ambiguousValue (filter value : String)
  | invalidKey (value : String)
  | keyOperator
  | invalidOperator (filter : String) (op : Operator)
  | invalidValue (filter : String) (e : ValueError)
  /-- The nodes do not alternate between conditions and connectives. -/
  | unbalancedNodes
deriving DecidableEq, Repr

/-- A cause in words, for whoever typed the query. -/
def QueryError.message : QueryError → String
  | notQuery e => e.message
  | unknownFilter name available =>
    s!"Unknown filter \"{name}\", available filters: " ++ ", ".intercalate available
  | notUnary name =>
    s!"\"{name}\" is not a unary filter, you must use it like \"{name}=something\""
  | noFreetextFilters => "There are no freetext filters available"
  | unknownValue filter value => s!"Unknown value \"{value}\" for filter \"{filter}\""
  | ambiguousValue filter value =>
    s!"Found more than one object for name \"{value}\" in filter \"{filter}\""
  | invalidKey value => s!"Could not interpret {value} as an integer"
  | keyOperator => "Only = is supported for primary key lookup"
  | invalidOperator filter op => s!"Invalid operator \"{op.symbol}\" for filter \"{filter}\""
  | invalidValue filter e => s!"Invalid value for filter \"{filter}\": {e.message}"
  | unbalancedNodes => "The conditions of the query are not joined by connectives"

end FilterQuery
