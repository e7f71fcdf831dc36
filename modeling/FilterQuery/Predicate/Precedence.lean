/-
Combining a flat sequence by precedence.

A sequence of predicates with connectives between them becomes one predicate, in two passes. The
first puts the sequence into reverse Polish order, where a connective follows the two operands it
applies to: a connective waits until one comes that binds no tighter, or until the sequence ends, so
connectives of one strength are applied from left to right. The second pass goes through that order
with a stack of predicates.

A sequence of any other shape has no predicate.
-/
import FilterQuery.Predicate
import FilterQuery.Query.Syntax

set_option autoImplicit false

namespace FilterQuery

/-- An element of a sequence to be combined. -/
inductive Item where
  | predicate (p : Predicate)
  | connective (k : Connective)

/-- Combines two predicates. -/
def Connective.apply : Connective → Predicate → Predicate → Predicate
  | and, p, q => p.and q
  | or, p, q => p.or q

namespace Precedence

/-- Must a connective that waits be applied before `next`, because it binds at least as tightly? -/
def yieldsTo (next waiting : Connective) : Bool :=
  next.strength ≤ waiting.strength

/-- Puts a sequence into reverse Polish order. The connectives in `waiting`, last first, have been
read already and wait for what is on their right. -/
def polishFrom (waiting : List Connective) : List Item → List Item
  | [] => waiting.map .connective
  | .predicate p :: items => .predicate p :: polishFrom waiting items
  | .connective k :: items =>
    (waiting.takeWhile (yieldsTo k)).map .connective ++
      polishFrom (k :: waiting.dropWhile (yieldsTo k)) items

/-- A sequence in reverse Polish order. -/
def toPolish (items : List Item) : List Item :=
  polishFrom [] items

/-- Evaluates what is in reverse Polish order, on a stack of predicates, last first. Each connective
needs two predicates on the stack, and in the end exactly one must be left. -/
def evaluateFrom? : List Predicate → List Item → Option Predicate
  | [p], [] => some p
  | _, [] => none
  | stack, .predicate p :: items => evaluateFrom? (p :: stack) items
  | q :: p :: stack, .connective k :: items => evaluateFrom? (k.apply p q :: stack) items
  | _, .connective _ :: _ => none

/-- The predicate that a sequence stands for, if it has the right shape. A predicate that is alone
stands for itself. -/
def resolve? : List Item → Option Predicate
  | [.predicate p] => some p
  | items => evaluateFrom? [] (toPolish items)

end Precedence

end FilterQuery
