/-
Typed values.

A filter reads the text of a query as one of these values, and an application binds them to filters.
A value has two texts. As a literal it is written into a query: numbers bare, truth values as `1`
and `0`, and everything else quoted, so that text is not taken for the name of a filter or for
`null`. As shown in a report it is meant for people: text is escaped, truth values are words.
-/
import FilterQuery.Calendar.Printer
import FilterQuery.Number.Double
import FilterQuery.Text.Escaped
import FilterQuery.Text.Quoted

set_option autoImplicit false

namespace FilterQuery

open Calendar (Date Time DateTime)

/-- A typed value. -/
inductive Value where
  | text (s : String)
  | int (n : Int64)
  | float (x : Float)
  /-- An exact decimal, kept in the digits it was given in. -/
  | decimal (s : String)
  | bool (b : Bool)
  | date (d : Date)
  | dateTime (dt : DateTime)
  | time (t : Time)
deriving BEq, Repr, Inhabited

namespace Value

/-- The value as it is written in a query. -/
def literal : Value → String
  | text s => Text.quote s
  | int n => Number.showInt64 n
  | float x => Number.showDouble x
  | decimal s => s
  | bool b => if b then "1" else "0"
  | date d => Text.quote d.literal
  | dateTime dt => Text.quote dt.literal
  | time t => Text.quote t.clock

/-- The value as it is shown in a report. -/
def render : Value → String
  | text s => Text.showText s
  | int n => Number.showInt64 n
  | float x => Number.showDouble x
  | decimal s => s
  | bool b => if b then "true" else "false"
  | date d => d.show
  | dateTime dt => dt.show
  | time t => t.clock

/-- Empty text means that there is no value. -/
def isBlank : Value → Bool
  | text s => s.isEmpty
  | _ => false

end Value

end FilterQuery
