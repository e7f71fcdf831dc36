/-
Plain data: what values are turned into when they leave the program, and read from when they come
in.

This is the usual tree of numbers, texts, lists and records. Whole numbers and reals are kept apart,
and the fields of a record keep their order.
-/
set_option autoImplicit false

namespace FilterQuery.Interchange

/-- A tree of plain data. -/
inductive Data where
  | null
  | bool (b : Bool)
  | integer (n : Int)
  | real (x : Float)
  | text (s : String)
  | list (items : List Data)
  | record (fields : List (String × Data))
deriving Repr, Inhabited

namespace Data

/-! ## Reading plain values -/

/-- A text. -/
def asText? : Data → Option String
  | text s => some s
  | _ => none

/-- A truth value. -/
def asBool? : Data → Option Bool
  | bool b => some b
  | _ => none

/-- A whole number in a range. -/
def asInteger? (low high : Int) : Data → Option Int
  | integer n => if low ≤ n ∧ n ≤ high then some n else none
  | _ => none

/-- An integer of 64 bits. -/
def asInt64? (d : Data) : Option Int64 :=
  (d.asInteger? Int64.minValue.toInt Int64.maxValue.toInt).map Int64.ofInt

/-- A size, which is a whole number of 64 bits without a sign. -/
def asSize? (d : Data) : Option Nat :=
  (d.asInteger? 0 (UInt64.size - 1)).map Int.toNat

/-- A real number, which may be written as a whole one. -/
def asReal? : Data → Option Float
  | real x => some x
  | integer n => some (Float.ofInt n)
  | _ => none

/-- A text, or nothing. -/
def asOptionalText? : Data → Option (Option String)
  | null => some none
  | text s => some (some s)
  | _ => none

/-- The items of a list. -/
def asList? : Data → Option (List Data)
  | list items => some items
  | _ => none

/-- Every item of a list, read alike. -/
def asListOf? {α : Type} (read : Data → Option α) (d : Data) : Option (List α) :=
  d.asList?.bind (·.mapM read)

/-! ## Reading structures -/

/-- The values of the fields named, in that order, of a record, or of a list of just that many
values in that order. A field that a record lacks has none. -/
def fields? (names : List String) : Data → Option (List (Option Data))
  | record fields => some (names.map fun name => fields.lookup name)
  | list items => if items.length = names.length then some (items.map some) else none
  | _ => none

/-- Like `fields?`, but a list may also end early. -/
def someFields? (names : List String) : Data → Option (List (Option Data))
  | list items =>
    if items.length ≤ names.length then
      some (items.map some ++ List.replicate (names.length - items.length) none)
    else none
  | d => d.fields? names

/-- Reads a field that may be left out. -/
def orElse {α : Type} (default : α) (read : Data → Option α) : Option Data → Option α
  | none => some default
  | some d => read d

/-- The name of an alternative that has no content. -/
def asName? : Data → Option String
  | text s => some s
  | record [(name, null)] => some name
  | _ => none

/-- The name of an alternative, and its content. -/
def asAlternative? : Data → Option (String × Data)
  | record [(name, content)] => some (name, content)
  | _ => none

end Data

end FilterQuery.Interchange
