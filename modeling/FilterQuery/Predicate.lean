/-
Predicates: what a query asks for.

A predicate is what a query is compiled to, for someone else to turn into a search of a store. Its
leaves compare the value at a path of attributes with a value or with another path. The functions
that combine predicates keep the tree flat: a conjunction never has a conjunction directly below it,
nor a disjunction a disjunction, unless one is built by hand, and a predicate that asks for nothing
disappears from both. `normalized` makes a tree flat that was built by hand.
-/
import FilterQuery.Value

set_option autoImplicit false

namespace FilterQuery

/-- How a path is compared. -/
inductive Comparison where
  | exact
  | iexact
  | contains
  | icontains
  | gt
  | gte
  | lt
  | lte
  | isNull
deriving DecidableEq, Repr, Inhabited

namespace Comparison

/-- Every comparison. -/
def all : List Comparison :=
  [exact, iexact, contains, icontains, gt, gte, lt, lte, isNull]

/-- The word for a comparison. -/
def word : Comparison → String
  | exact => "exact"
  | iexact => "iexact"
  | contains => "contains"
  | icontains => "icontains"
  | gt => "gt"
  | gte => "gte"
  | lt => "lt"
  | lte => "lte"
  | isNull => "isnull"

/-- The comparison with this word. -/
def ofWord? (s : String) : Option Comparison :=
  all.find? (·.word == s)

/-- Every comparison is found by its word. -/
theorem ofWord?_word (c : Comparison) : ofWord? c.word = some c := by
  cases c <;> decide

end Comparison

/-- What a path is compared with. -/
inductive Operand where
  | value (v : Value)
  /-- The path of another filter. -/
  | field (path : String)
deriving BEq, Repr, Inhabited

/-- A single comparison. -/
structure Lookup where
  path : String
  comparison : Comparison
  operand : Operand
deriving BEq, Repr, Inhabited

/-- A condition on what is searched. -/
inductive Predicate where
  /-- Asks for nothing, so everything is found. -/
  | empty
  | leaf (l : Lookup)
  | conj (parts : List Predicate)
  | disj (parts : List Predicate)
  | not (p : Predicate)
deriving Repr, Inhabited

namespace Predicate

/-- The comparison of a path with an operand. -/
def compare (path : String) (c : Comparison) (operand : Operand) : Predicate :=
  leaf ⟨path, c, operand⟩

/-- Asks that there is no value at the path. -/
def isNull (path : String) : Predicate :=
  compare path .isNull (.value (.bool true))

/-- Does the predicate ask for nothing? -/
def isEmpty : Predicate → Bool
  | empty => true
  | _ => false

/-! ## Combining predicates -/

/-- What the predicate contributes to a conjunction it becomes part of. -/
def conjuncts : Predicate → List Predicate
  | conj parts => parts
  | p => [p]

/-- What the predicate contributes to a disjunction it becomes part of. -/
def disjuncts : Predicate → List Predicate
  | disj parts => parts
  | p => [p]

/-- Asks for both. -/
def and : Predicate → Predicate → Predicate
  | empty, q => q
  | p, empty => p
  | p, q => conj (p.conjuncts ++ q.conjuncts)

/-- Asks for either. -/
def or : Predicate → Predicate → Predicate
  | empty, q => q
  | p, empty => p
  | p, q => disj (p.disjuncts ++ q.disjuncts)

@[simp] theorem empty_and (p : Predicate) : empty.and p = p := rfl

@[simp] theorem and_empty (p : Predicate) : p.and empty = p := by
  cases p <;> rfl

@[simp] theorem empty_or (p : Predicate) : empty.or p = p := rfl

@[simp] theorem or_empty (p : Predicate) : p.or empty = p := by
  cases p <;> rfl

/-- Asks for the opposite; nothing is asked for by the opposite of nothing. -/
def negate : Predicate → Predicate
  | empty => empty
  | p => not p

/-- The predicate, or its opposite. -/
def negateIf (negated : Bool) (p : Predicate) : Predicate :=
  if negated then p.negate else p

/-- Asks for all. -/
def all (ps : List Predicate) : Predicate :=
  ps.foldl and empty

/-- Asks for any. -/
def any (ps : List Predicate) : Predicate :=
  ps.foldl or empty

mutual

/-- The same predicate without groups inside groups of their own kind, without parts that ask for
nothing, and without groups of one part. -/
def normalized : Predicate → Predicate
  | conj parts => all (normalizedEach parts)
  | disj parts => any (normalizedEach parts)
  | not p => p.normalized.negate
  | empty => empty
  | leaf l => leaf l

/-- Each of the predicates, normalized. -/
def normalizedEach : List Predicate → List Predicate
  | [] => []
  | p :: ps => p.normalized :: normalizedEach ps

end

/-! ## Comparing predicates -/

mutual

/-- Are two predicates the same? Floating-point numbers are compared as numbers, so a predicate that
holds what is no number is not the same as itself. -/
def same : Predicate → Predicate → Bool
  | empty, empty => true
  | leaf l, leaf m => l == m
  | conj ps, conj qs => sameEach ps qs
  | disj ps, disj qs => sameEach ps qs
  | not p, not q => same p q
  | _, _ => false

/-- Are two lists of predicates the same? -/
def sameEach : List Predicate → List Predicate → Bool
  | [], [] => true
  | p :: ps, q :: qs => same p q && sameEach ps qs
  | _, _ => false

end

instance instBEqPredicate : BEq Predicate := ⟨same⟩

end Predicate

/-! ## Showing predicates -/

/-- An operand as it is shown. -/
def Operand.render : Operand → String
  | value v => v.render
  | field path => s!"F({path})"

/-- A comparison as it is shown. -/
def Lookup.render (l : Lookup) : String :=
  s!"{l.path}__{l.comparison.word}={l.operand.render}"

namespace Predicate

/-- A group as it is shown. -/
def renderGroup (label : String) (parts : List String) : String :=
  s!"({label}: " ++ ", ".intercalate parts ++ ")"

mutual

/-- A predicate as it is shown. -/
def render : Predicate → String
  | empty => renderGroup "AND" []
  | leaf l => l.render
  | conj parts => renderGroup "AND" (renderEach parts)
  | disj parts => renderGroup "OR" (renderEach parts)
  | not p => "(NOT " ++ p.render ++ ")"

/-- Each of the predicates as it is shown. -/
def renderEach : List Predicate → List String
  | [] => []
  | p :: ps => p.render :: renderEach ps

end

end Predicate

end FilterQuery
