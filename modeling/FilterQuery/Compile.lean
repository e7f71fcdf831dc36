/-
Compiling a query to a predicate.

A text is trimmed and read as a query. Each statement becomes a predicate by way of the filter that
it names, each group is compiled on its own, and the sequence that results is combined by
precedence. The statements are compiled in the order of the text, so the first one at fault is the
one reported.

A value that is not quoted and names a filter with an attribute stands for that attribute. Quoting a
value always makes it a value.
-/
import FilterQuery.Predicate.Precedence
import FilterQuery.Query.Parser
import FilterQuery.Registry

set_option autoImplicit false

namespace FilterQuery

namespace Filter

/-- The predicate for an operator and an operand, which must stand for something. The text of the
value is for the error. -/
def demand (f : Filter) (op : Operator) (operand : Operand) (text : String) :
    Except QueryError Predicate :=
  (f.predicate? op operand).bind fun
    | some p => .ok p
    | none => .error (.unknownValue f.name text)

/-- Compares the key of the record that the filter refers to. -/
def compareKey (f : Filter) (key : Int64) : Predicate :=
  match f.attr with
  | some attr => .compare (attr ++ ".pk") .exact (.value (.int key))
  | none => .empty

/-- Compares the key with the number that a literal gives. -/
def compileKey (f : Filter) (op : Operator) (value : Literal) : Except QueryError Predicate :=
  if op ≠ .eq then .error .keyOperator
  else match Number.readInt64? (Text.trimChars value.text.toList) with
    | some key => .ok (f.compareKey key)
    | none => .error (.invalidKey value.text)

/-- Asks that there is no value, or that there is one. -/
def compileNull (f : Filter) (op : Operator) : Except QueryError Predicate :=
  let isNull := match f.attr with
    | some attr => Predicate.isNull attr
    | none => .empty
  match op with
  | .eq => .ok isNull
  | .notEq => .ok isNull.negate
  | _ => .error (.invalidOperator f.name op)

/-- Compares with an attribute of another filter. -/
def compileField (f : Filter) (op : Operator) (path text : String) : Except QueryError Predicate :=
  (f.resolve op).bind fun _ => f.demand op (.field path) text

/-- Compares with the value that a text gives. -/
def compileValue (f : Filter) (op : Operator) (text : String) : Except QueryError Predicate :=
  match f.read text with
  | .error e => .error (.invalidValue f.name e)
  | .ok v => (f.resolve op).bind fun _ => f.demand op (.value v) text

end Filter

/-- The name of a filter before the suffix for keys, in any mixture of cases, if it ends in that. -/
def dropKeySuffix? (name : String) : Option String :=
  let s := name.toList
  let base := s.length - keySuffix.length
  if keySuffix.length ≤ s.length && (s.drop base).map Char.toLower == keySuffix then
    some (String.ofList (s.take base))
  else none

namespace Registry

/-! ## Statements -/

/-- The path that a literal stands for, if it names a filter with an attribute. -/
def fieldReference? (r : Registry) : Literal → Option String
  | .bare text => (r.get? text).bind (·.attr)
  | _ => none

/-- The predicate for a comparison of a filter with a literal. -/
def compileLiteral (r : Registry) (f : Filter) (op : Operator) (value : Literal) :
    Except QueryError Predicate :=
  match r.fieldReference? value with
  | some path => f.compileField op path value.text
  | none =>
    match value with
    | .null => f.compileNull op
    | _ => f.compileValue op value.text

/-- The predicate for a comparison. -/
def compileComparison (r : Registry) (name : String) (op : Operator) (value : Literal) :
    Except QueryError Predicate :=
  match dropKeySuffix? name with
  | some base => (r.resolve base).bind fun f => f.compileKey op value
  | none => (r.resolve name).bind fun f => r.compileLiteral f op value

/-- The predicate for a name without a value. -/
def compileFlag (r : Registry) (name : String) (negated : Bool) : Except QueryError Predicate :=
  (r.resolve name).bind fun f =>
    if f.unary then f.demand .eq (.value (.bool !negated)) (if negated then "false" else "true")
    else .error (.notUnary name)

/-- The predicate that one filter adds to a search for text; none if it has no attribute. -/
def freetextPart (text : String) (f : Filter) : Except QueryError (Option Predicate) :=
  match f.attr with
  | none => .ok none
  | some attr => (f.resolve .contains).map fun r => some (r.predicate attr (.value (.text text)))

/-- The predicate for a search for text: any of the filters that are searched contains it. -/
def compileFreetext (r : Registry) (text : String) : Except QueryError Predicate :=
  if r.freetextFilters.isEmpty then .error .noFreetextFilters
  else (r.freetextFilters.mapM (freetextPart text)).map fun parts =>
    .any (parts.filterMap id)

/-- The predicate for a statement. -/
def compileStatement (r : Registry) : Statement → Except QueryError Predicate
  | .comparison name op value => r.compileComparison name op value
  | .flag name negated => r.compileFlag name negated
  | .freetext text => r.compileFreetext text

/-! ## Queries -/

/-- Combines a sequence by precedence. -/
def combine (items : List Item) : Except QueryError Predicate :=
  match Precedence.resolve? items with
  | some p => .ok p
  | none => .error .unbalancedNodes

mutual

/-- A node as an element of a sequence. -/
def compileNode (r : Registry) : Node → Except QueryError Item
  | .statement s => (r.compileStatement s).map .predicate
  | .connective k => .ok (.connective k)
  | .group nodes => ((r.compileEach nodes).bind combine).map .predicate

/-- Nodes as the elements of a sequence; the first error is the one reported. -/
def compileEach (r : Registry) : List Node → Except QueryError (List Item)
  | [] => .ok []
  | n :: ns => (r.compileNode n).bind fun item => (r.compileEach ns).map (item :: ·)

end

/-- The predicate for the nodes of a query. -/
def compileNodes (r : Registry) (nodes : List Node) : Except QueryError Predicate :=
  (r.compileEach nodes).bind combine

/-- Compiles a text, within the limits given. A blank text asks for nothing. -/
def compileWithin (r : Registry) (limits : Limits) (text : String) : Except QueryError Predicate :=
  let trimmed := Text.trim text
  if trimmed.isEmpty then .ok .empty
  else match Query.parseWithin limits trimmed with
    | .error e => .error (.notQuery e)
    | .ok q => r.compileNodes q.nodes

/-- Compiles a text, within the usual limits. -/
def compile (r : Registry) (text : String) : Except QueryError Predicate :=
  r.compileWithin {} text

end Registry

end FilterQuery
