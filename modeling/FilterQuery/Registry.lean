/-
Registries: the filters that a query may ask about.

Filters are registered one after the other. A filter is refused if its name could not be typed, or
could be taken for the key of another filter; if it is searched for text but cannot be asked what it
contains; and if its name or its name in queries is taken. The registry is the list of the filters
accepted, and everything else is read off that list.
-/
import FilterQuery.Filter
import FilterQuery.Query.Word

set_option autoImplicit false

namespace FilterQuery

/-- Why a filter cannot be registered. -/
inductive RegistryError where
  | duplicateName (name : String)
  | duplicateQueryName (name : String)
  | invalidName (name : String)
  | freetextWithoutContains (name : String)
deriving DecidableEq, Repr

/-- A cause in words. -/
def RegistryError.message : RegistryError → String
  | duplicateName name => s!"A filter named \"{name}\" is already registered"
  | duplicateQueryName name => s!"Query name \"{name}\" is already used by another filter"
  | invalidName name => s!"\"{name}\" cannot be typed in a query, so it cannot name a filter"
  | freetextWithoutContains name =>
    s!"Filter \"{name}\" is searched by freetext but has no ':' operator"

/-- What is put after the name of a filter to compare the key of a record. -/
def keySuffix : List Char :=
  ".pk".toList

/-- Does the name end in the suffix for keys, in small letters? -/
def endsInKeySuffix (name : String) : Bool :=
  keySuffix.isSuffixOf name.toList

/-- The filters that a query may ask about, in the order in which they were registered. -/
structure Registry where
  filters : List Filter

namespace Registry

/-- The registry without filters. -/
def empty : Registry :=
  ⟨[]⟩

/-- The filter with this name. -/
def filter? (r : Registry) (name : String) : Option Filter :=
  r.filters.find? (·.name == name)

/-- The filter with exactly this name in queries. -/
def exactly? (r : Registry) (queryName : String) : Option Filter :=
  r.filters.find? (·.queryName == queryName)

/-- The filter that is meant by a name typed in a query, in any mixture of cases. -/
def get? (r : Registry) (queryName : String) : Option Filter :=
  (r.exactly? queryName).or (r.exactly? (Text.lowercase queryName))

/-- The names of all filters in queries, in order. -/
def names (r : Registry) : List String :=
  (r.filters.map (·.queryName)).mergeSort fun a b => decide (a ≤ b)

/-- The filters that are searched for text, in the order in which they were registered. -/
def freetextFilters (r : Registry) : List Filter :=
  r.filters.filter (·.freetext)

/-- Like `get?`, but a name that is not known is an error that lists those that are. -/
def resolve (r : Registry) (queryName : String) : Except QueryError Filter :=
  match r.get? queryName with
  | some f => .ok f
  | none => .error (.unknownFilter queryName r.names)

/-- Registers a filter. -/
def register (r : Registry) (f : Filter) : Except RegistryError Registry :=
  if !isName f.queryName || endsInKeySuffix f.queryName then .error (.invalidName f.queryName)
  else if f.freetext && !f.operators.accepts .contains then
    .error (.freetextWithoutContains f.name)
  else if (r.filter? f.name).isSome then .error (.duplicateName f.name)
  else if (r.exactly? f.queryName).isSome then .error (.duplicateQueryName f.queryName)
  else .ok ⟨r.filters ++ [f]⟩

end Registry

end FilterQuery
