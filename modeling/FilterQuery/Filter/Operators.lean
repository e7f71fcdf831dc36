/-
What operators mean to a filter.

Each filter has a table that says which comparison an operator stands for, and whether the
comparison is negated. An operator that is not in the table is refused.
-/
import FilterQuery.Predicate
import FilterQuery.Query.Syntax

set_option autoImplicit false

namespace FilterQuery

/-- What an operator means to one filter. -/
structure ResolvedOperator where
  comparison : Comparison
  negated : Bool
deriving DecidableEq, Repr

/-- What an operator with this meaning says of a path and an operand. -/
def ResolvedOperator.predicate (r : ResolvedOperator) (path : String) (operand : Operand) :
    Predicate :=
  (Predicate.compare path r.comparison operand).negateIf r.negated

/-- The operators that a filter accepts, each with what it means. -/
structure OperatorTable where
  find? : Operator → Option ResolvedOperator

namespace OperatorTable

/-- Accepts no operator. -/
def none : OperatorTable :=
  ⟨fun _ => .none⟩

/-- The table in which an operator means this, whatever it meant before. -/
def insert (t : OperatorTable) (op : Operator) (meaning : ResolvedOperator) : OperatorTable :=
  ⟨fun o => if o = op then some meaning else t.find? o⟩

/-- The table in which an operator stands for a comparison. -/
def allow (t : OperatorTable) (op : Operator) (c : Comparison) : OperatorTable :=
  t.insert op ⟨c, false⟩

/-- The table in which an operator stands for the opposite of a comparison. -/
def allowNegated (t : OperatorTable) (op : Operator) (c : Comparison) : OperatorTable :=
  t.insert op ⟨c, true⟩

/-- The table that does not accept an operator any more. -/
def erase (t : OperatorTable) (op : Operator) : OperatorTable :=
  ⟨fun o => if o = op then .none else t.find? o⟩

/-- Does the table accept the operator? -/
def accepts (t : OperatorTable) (op : Operator) : Bool :=
  (t.find? op).isSome

/-! ## Usual tables -/

/-- The four operators that compare by size. -/
def bySize : OperatorTable :=
  none.allow .gt .gt |>.allow .gte .gte |>.allow .lt .lt |>.allow .lte .lte

/-- Equality and its opposite, for truth values and choices. -/
def equality : OperatorTable :=
  none.allow .eq .exact |>.allowNegated .notEq .exact

/-- Equality and size, for numbers, dates and times. -/
def ordered : OperatorTable :=
  bySize.allow .eq .exact |>.allowNegated .notEq .exact

/-- Equality, size and parts of texts, without regard to case. -/
def caseInsensitive : OperatorTable :=
  bySize.allow .eq .iexact |>.allow .contains .icontains
    |>.allowNegated .notEq .iexact |>.allowNegated .notContains .icontains

/-- Equality, size and parts of texts, with regard to case. -/
def caseSensitive : OperatorTable :=
  bySize.allow .eq .exact |>.allow .contains .contains
    |>.allowNegated .notEq .exact |>.allowNegated .notContains .contains

/-! ## Looking up after a change -/

theorem find?_insert_self (t : OperatorTable) (op : Operator) (m : ResolvedOperator) :
    (t.insert op m).find? op = some m := by
  simp [insert]

theorem find?_insert_of_ne (t : OperatorTable) {op o : Operator} (m : ResolvedOperator)
    (h : o ≠ op) : (t.insert op m).find? o = t.find? o := by
  simp [insert, h]

end OperatorTable

end FilterQuery
