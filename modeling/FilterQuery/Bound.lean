/-
Values bound to filters.

An application keeps the values that were chosen for its filters, for instance in a form. They stand
for a predicate, which is made of the filters directly; and they can be written as the text of a
query, which compiles to the same. Both go through the filters in the order in which they were
registered, skip filters without a value, and come to the search for text last.
-/
import FilterQuery.Compile

set_option autoImplicit false

namespace FilterQuery

/-- What is bound to one filter. -/
inductive BoundValue where
  | single (v : Value)
  /-- Any of the values. -/
  | list (vs : List Value)
  /-- Another record, by its key and perhaps its name. -/
  | record (key : Int64) (name : Option String)
deriving BEq, Repr, Inhabited

/-- Does it count as no value? -/
def BoundValue.isBlank : BoundValue → Bool
  | single v => v.isBlank
  | list vs => vs.isEmpty
  | record _ _ => false

/-- The values that are bound, by the names of the filters, and the text that is searched for. -/
structure BoundValues where
  /-- The last value bound to a filter is the first of its name here. -/
  entries : List (String × BoundValue) := []
  searched : Option String := none
deriving Repr, Inhabited

namespace BoundValues

/-- What is bound to the filter with this name. -/
def get? (b : BoundValues) (name : String) : Option BoundValue :=
  b.entries.lookup name

/-- Binds a value to a filter, in place of any that is bound to it. -/
def set (b : BoundValues) (name : String) (v : BoundValue) : BoundValues :=
  { b with entries := (name, v) :: b.entries }

/-- Searches for a text. -/
def search (b : BoundValues) (text : String) : BoundValues :=
  { b with searched := some text }

/-- The text that is searched for; empty text is not searched for. -/
def freetext? (b : BoundValues) : Option String :=
  b.searched.filter (!·.isEmpty)

/-- Binding a value is seen at its own filter only. -/
theorem get?_set (b : BoundValues) (name other : String) (v : BoundValue) :
    (b.set name v).get? other = if other = name then some v else b.get? other := by
  by_cases h : other = name
  · simp [get?, set, h]
  · have hb : (other == name) = false := beq_eq_false_iff_ne.2 h
    simp [get?, set, List.lookup_cons, hb, h]

/-- The filters of a registry to which a value is bound that is not blank, each with its value. -/
def onFilters (b : BoundValues) (r : Registry) : List (Filter × BoundValue) :=
  r.filters.filterMap fun f =>
    ((b.get? f.name).filter (!·.isBlank)).map fun v => (f, v)

end BoundValues

/-! ## The predicate that bound values stand for -/

/-- The text that stands for a value in an error. -/
def Value.inError : Value → String
  | text s => s
  | v => v.render

namespace Filter

/-- The predicate for one value, with the operator of the filter. -/
def bind (f : Filter) (v : Value) : Except QueryError Predicate :=
  f.demand f.formOperator (.value v) v.inError

/-- The predicate for what is bound to the filter. -/
def bindAll (f : Filter) : BoundValue → Except QueryError Predicate
  | .single v => f.bind v
  | .list vs => (vs.mapM f.bind).map .any
  | .record _ (some name) => f.bind (.text name)
  | .record key none => .ok (f.compareKey key)

end Filter

/-- The predicate that the bound values stand for, made of the filters directly. -/
def BoundValues.predicate (b : BoundValues) (r : Registry) : Except QueryError Predicate := do
  let parts ← (b.onFilters r).mapM fun (f, v) => f.bindAll v
  match b.freetext? with
  | none => return .all parts
  | some text => return .all (parts ++ [← r.compileFreetext text])

/-! ## The text of bound values -/

namespace Filter

/-- A comparison with a literal, as text. -/
def writeComparison (f : Filter) (op : Operator) (literal : String) : String :=
  f.queryName ++ op.symbol ++ literal

/-- What is bound to the filter, as text. -/
def write (f : Filter) : BoundValue → String
  | .single v => f.writeComparison f.formOperator v.literal
  | .list vs =>
    "(" ++ " OR ".intercalate (vs.map fun v => f.writeComparison f.formOperator v.literal) ++ ")"
  | .record _ (some name) => f.writeComparison f.formOperator (Text.quote name)
  | .record key none => f.queryName ++ ".pk=" ++ Number.showInt64 key

end Filter

/-- A search for text, as text: nothing if no filter is searched. -/
def Registry.writeFreetext (r : Registry) (text : String) : List String :=
  let parts := r.freetextFilters.map fun f => f.writeComparison .contains (Text.quote text)
  if parts.isEmpty then [] else ["(" ++ " or ".intercalate parts ++ ")"]

/-- The bound values as the text of a query. -/
def BoundValues.write (b : BoundValues) (r : Registry) : String :=
  let clauses := (b.onFilters r).map fun (f, v) => f.write v
  let search := match b.freetext? with
    | none => []
    | some text => r.writeFreetext text
  " and ".intercalate (clauses ++ search)

end FilterQuery
