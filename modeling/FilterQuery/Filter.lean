/-
Filters: the named attributes that a query can ask about.

A filter says how its name is typed, what attribute it looks at, how it reads the text of a value,
what operators mean to it, and how a value becomes a predicate. All but the last is in its `Traits`.
The last is a function of the traits, so that a filter whose traits are changed keeps making
predicates for the traits it has, not for those it had.
-/
import FilterQuery.Filter.Operators
import FilterQuery.QueryError
import FilterQuery.Text.Lowercase

set_option autoImplicit false

namespace FilterQuery

/-- Everything about a filter except how it makes predicates. -/
structure Filter.Traits where
  name : String
  /-- The name as it is typed in a query, in small letters. -/
  queryName : String
  /-- The path of the attribute; without one the filter asks for nothing. -/
  attr : Option String
  /-- May the name be typed without a value? -/
  unary : Bool
  /-- Does a search for text without a filter look here, too? -/
  freetext : Bool
  operators : OperatorTable
  /-- The operator that a bound value is written with. -/
  formOperator : Operator
  /-- Reads the text of a value. -/
  read : String → Except ValueError Value
  /-- Names are compared in small letters, so the filter's own must be in them. -/
  queryName_lowered : Text.IsLowered queryName

/-- Looks an operator up in the table of the filter. -/
def Filter.Traits.resolve (t : Filter.Traits) (op : Operator) :
    Except QueryError ResolvedOperator :=
  match t.operators.find? op with
  | some meaning => .ok meaning
  | none => .error (.invalidOperator t.name op)

/-- A way to make the predicate for an operator and an operand. There is none if the value stands
for nothing that there is. -/
abbrev PredicateRule : Type :=
  Filter.Traits → Operator → Operand → Except QueryError (Option Predicate)

/-- A named attribute that a query can ask about. -/
structure Filter extends Filter.Traits where
  rule : PredicateRule

namespace Filter

/-- The predicate for an operator and an operand. -/
def predicate? (f : Filter) (op : Operator) (operand : Operand) :
    Except QueryError (Option Predicate) :=
  f.rule f.toTraits op operand

/-- The filter under another name in queries. -/
def withQueryName (f : Filter) (queryName : String) : Filter :=
  { f with
    queryName := Text.lowercase queryName
    queryName_lowered := Text.isLowered_lowercase queryName }

end Filter

/-! ## Rules for predicates -/

namespace PredicateRule

/-- Compares the attribute with the operand as the table of operators says. -/
def compare : PredicateRule := fun t op operand =>
  match t.attr with
  | none => .ok (some .empty)
  | some attr => (t.resolve op).map fun r => some (r.predicate attr operand)

/-- Like `compare`, but empty text asks that there is no value. -/
def tristate : PredicateRule := fun t op operand =>
  match operand with
  | .value (.text "") => (t.resolve op).map fun r =>
      some (match t.attr with
        | none => .empty
        | some attr => (Predicate.isNull attr).negateIf r.negated)
  | _ => compare t op operand

/-- Looks a name up in a directory and compares the key of the record that has it. A name that no
record has stands for nothing; one that several have cannot be told apart. What is no text is
compared as it is. -/
def reference (keys : String → List Int64) : PredicateRule := fun t op operand =>
  match t.attr with
  | none => .ok (some .empty)
  | some attr => (t.resolve op).bind fun r =>
      match operand with
      | .value (.text name) =>
        match keys name with
        | [] => .ok none
        | [key] => .ok (some (r.predicate (attr ++ ".pk") (.value (.int key))))
        | _ => .error (.ambiguousValue t.name name)
      | _ => .ok (some (r.predicate attr operand))

end PredicateRule

end FilterQuery
