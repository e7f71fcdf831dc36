/-
The plain data that values, predicates, queries and settings are kept as.

An alternative is a record with one field, named for the alternative; an alternative without content
is just its name. A structure is a record; fields that it does not have are ignored, and in reading
the values of its fields may also be given as a list. Dates and times are texts in the interchange
format.
-/
import FilterQuery.Bound
import FilterQuery.Calendar.Iso
import FilterQuery.Interchange.Data

set_option autoImplicit false

namespace FilterQuery.Interchange

open Calendar (Iso.readDate? Iso.readDateTime? Iso.readTime?)

/-- An alternative with content, as data. -/
def alternative (name : String) (content : Data) : Data :=
  .record [(name, content)]

/-- Finds the member of a list that is written with a name. -/
def byName? {α : Type} (members : List α) (name : α → String) (d : Data) : Option α :=
  d.asName?.bind fun s => members.find? (name · == s)

/-! ## Values -/

/-- A value as data. -/
def ofValue : Value → Data
  | .text s => alternative "Str" (.text s)
  | .int n => alternative "Int" (.integer n.toInt)
  | .float x => alternative "Float" (.real x)
  | .decimal s => alternative "Decimal" (.text s)
  | .bool b => alternative "Bool" (.bool b)
  | .date d => alternative "Date" (.text d.show)
  | .dateTime dt => alternative "DateTime" (.text dt.show)
  | .time t => alternative "Time" (.text t.clock)

/-- Reads a value. -/
def toValue? (d : Data) : Option Value := do
  let (name, content) ← d.asAlternative?
  match name with
  | "Str" => content.asText?.map .text
  | "Int" => content.asInt64?.map .int
  | "Float" => content.asReal?.map .float
  | "Decimal" => content.asText?.map .decimal
  | "Bool" => content.asBool?.map .bool
  | "Date" => (content.asText?.bind fun s => Iso.readDate? s.toList).map .date
  | "DateTime" => (content.asText?.bind fun s => Iso.readDateTime? s.toList).map .dateTime
  | "Time" => (content.asText?.bind fun s => Iso.readTime? s.toList).map .time
  | _ => none

/-! ## Predicates -/

/-- An operand as data. -/
def ofOperand : Operand → Data
  | .value v => alternative "Value" (ofValue v)
  | .field path => alternative "Field" (.text path)

/-- Reads an operand. -/
def toOperand? (d : Data) : Option Operand := do
  let (name, content) ← d.asAlternative?
  match name with
  | "Value" => (toValue? content).map .value
  | "Field" => content.asText?.map .field
  | _ => none

/-- A comparison of a path as data. -/
def ofLookup (l : Lookup) : Data :=
  .record [("path", .text l.path), ("comparison", .text l.comparison.word),
    ("operand", ofOperand l.operand)]

/-- Reads a comparison of a path. -/
def toLookup? (d : Data) : Option Lookup :=
  match d.fields? ["path", "comparison", "operand"] with
  | some [some path, some comparison, some operand] => do
    let path ← path.asText?
    let comparison ← byName? Comparison.all Comparison.word comparison
    let operand ← toOperand? operand
    return ⟨path, comparison, operand⟩
  | _ => none

mutual

/-- A predicate as data. -/
def ofPredicate : Predicate → Data
  | .empty => .text "Empty"
  | .leaf l => alternative "Leaf" (ofLookup l)
  | .conj parts => alternative "And" (.list (ofPredicates parts))
  | .disj parts => alternative "Or" (.list (ofPredicates parts))
  | .not p => alternative "Not" (ofPredicate p)

/-- Predicates as data. -/
def ofPredicates : List Predicate → List Data
  | [] => []
  | p :: ps => ofPredicate p :: ofPredicates ps

end

mutual

/-- Reads a predicate. -/
def toPredicate? : Data → Option Predicate
  | .text "Empty" => some .empty
  | .record [("Empty", .null)] => some .empty
  | .record [("Leaf", content)] => (toLookup? content).map .leaf
  | .record [("And", .list items)] => (toPredicates? items).map .conj
  | .record [("Or", .list items)] => (toPredicates? items).map .disj
  | .record [("Not", content)] => (toPredicate? content).map .not
  | _ => none

/-- Reads predicates. -/
def toPredicates? : List Data → Option (List Predicate)
  | [] => some []
  | d :: ds => (toPredicate? d).bind fun p => (toPredicates? ds).map (p :: ·)

end

/-! ## Queries -/

/-- A literal as data. -/
def ofLiteral : Literal → Data
  | .bare text => alternative "Str" (.text text)
  | .quoted text => alternative "Quoted" (.text text)
  | .null => .text "Null"

/-- Reads a literal. -/
def toLiteral? : Data → Option Literal
  | .text "Null" => some .null
  | .record [("Null", .null)] => some .null
  | .record [("Str", content)] => content.asText?.map .bare
  | .record [("Quoted", content)] => content.asText?.map .quoted
  | _ => none

/-- A statement as data. -/
def ofStatement : Statement → Data
  | .comparison name op value => alternative "Binary"
      (.record [("name", .text name), ("op", .text op.symbol), ("rhs", ofLiteral value)])
  | .flag name negated => alternative "Unary"
      (.record [("name", .text name), ("negated", .bool negated)])
  | .freetext text => alternative "Freetext" (.text text)

/-- Reads a comparison of a filter. -/
def toComparison? (d : Data) : Option Statement :=
  match d.fields? ["name", "op", "rhs"] with
  | some [some name, some op, some rhs] => do
    let name ← name.asText?
    let op ← byName? Operator.all Operator.symbol op
    let rhs ← toLiteral? rhs
    return .comparison name op rhs
  | _ => none

/-- Reads a name without a value. -/
def toFlag? (d : Data) : Option Statement :=
  match d.fields? ["name", "negated"] with
  | some [some name, some negated] => do
    let name ← name.asText?
    let negated ← negated.asBool?
    return .flag name negated
  | _ => none

/-- Reads a statement. -/
def toStatement? (d : Data) : Option Statement := do
  let (name, content) ← d.asAlternative?
  match name with
  | "Binary" => toComparison? content
  | "Unary" => toFlag? content
  | "Freetext" => content.asText?.map .freetext
  | _ => none

mutual

/-- A node as data. -/
def ofNode : Node → Data
  | .statement s => alternative "Statement" (ofStatement s)
  | .connective k => alternative "Connective" (.text k.word)
  | .group nodes => alternative "Group" (.list (ofNodes nodes))

/-- Nodes as data. -/
def ofNodes : List Node → List Data
  | [] => []
  | n :: ns => ofNode n :: ofNodes ns

end

mutual

/-- Reads a node. -/
def toNode? : Data → Option Node
  | .record [("Statement", content)] => (toStatement? content).map .statement
  | .record [("Connective", content)] =>
    (byName? [Connective.and, Connective.or] Connective.word content).map .connective
  | .record [("Group", .list items)] => (toNodes? items).map .group
  | _ => none

/-- Reads nodes. -/
def toNodes? : List Data → Option (List Node)
  | [] => some []
  | d :: ds => (toNode? d).bind fun n => (toNodes? ds).map (n :: ·)

end

/-- A query as data. -/
def ofQuery (q : Query) : Data :=
  .record [("nodes", .list (ofNodes q.nodes))]

/-- Reads a query. -/
def toQuery? (d : Data) : Option Query :=
  match d.fields? ["nodes"] with
  | some [some (.list items)] => (toNodes? items).map fun nodes => ⟨nodes⟩
  | _ => none

/-! ## Settings -/

/-- Reads limits; those that are left out are the usual ones. -/
def toLimits? (d : Data) : Option Limits :=
  match d.someFields? ["max_depth", "max_length"] with
  | some [depth, length] => do
    let usual : Limits := {}
    let maxDepth ← Data.orElse usual.maxDepth Data.asSize? depth
    let maxLength ← Data.orElse usual.maxLength Data.asSize? length
    return { maxDepth, maxLength }
  | _ => none

/-- Reads the settings for compiling, of which the limits are the only ones. -/
def toSettings? (d : Data) : Option Limits :=
  match d.someFields? ["parse"] with
  | some [limits] => Data.orElse {} toLimits? limits
  | _ => none

/-! ## Bound values -/

/-- What is bound to a filter, as data. -/
def ofBoundValue : BoundValue → Data
  | .single v => alternative "Single" (ofValue v)
  | .list vs => alternative "List" (.list (vs.map ofValue))
  | .record key name => alternative "Record"
      (.record [("pk", .integer key.toInt), ("name", (name.map Data.text).getD .null)])

/-- Reads a reference to a record. -/
def toRecord? (d : Data) : Option BoundValue :=
  match d.fields? ["pk", "name"] with
  | some [some key, name] => do
    let key ← key.asInt64?
    let name ← Data.orElse none Data.asOptionalText? name
    return .record key name
  | _ => none

/-- Reads what is bound to a filter. -/
def toBoundValue? (d : Data) : Option BoundValue := do
  let (name, content) ← d.asAlternative?
  match name with
  | "Single" => (toValue? content).map .single
  | "List" => (content.asListOf? toValue?).map .list
  | "Record" => toRecord? content
  | _ => none

/-- Reads what is bound to filters, by their names. -/
def toEntries? : Data → Option (List (String × BoundValue))
  | .record fields => fields.mapM fun (name, content) =>
      (toBoundValue? content).map fun v => (name, v)
  | _ => none

/-- Reads bound values. -/
def toBoundValues? (d : Data) : Option BoundValues :=
  match d.fields? ["values", "freetext"] with
  | some [some values, freetext] => do
    let entries ← toEntries? values
    let searched ← Data.orElse none Data.asOptionalText? freetext
    return { entries, searched }
  | _ => none

end FilterQuery.Interchange
