/-
The shortest decimal that reads back as a given floating-point number.

A positive double is `m · 2 ^ q`. All reals nearer to it than to its neighbours read as this double,
and so do the two reals half-way to a neighbour if `m` is even. On the grid of multiples of `10 ^ k`
only the two points on either side of the double can lie in that interval before any other point of
the grid does, so it is enough to test these two, on one grid after the other from the coarsest on.
The first grid with a hit gives the fewest digits. Of two hits the nearer one is taken, and the
upper one if they are equally near.

Everything is compared in whole numbers: a unit of a quarter of `2 ^ q` makes the double and the
ends of its interval whole, and both sides of a comparison are multiplied by what the other is
divided by.
-/
set_option autoImplicit false

namespace FilterQuery.Number

/-- A positive real `mantissa · 2 ^ exponent`, with the distance to its lower neighbour. -/
structure Binary where
  mantissa : Nat
  exponent : Int
  /-- Is the neighbour below only half as far as the one above? So it is at a power of two. -/
  closeBelow : Bool
deriving DecidableEq, Repr

/-- A decimal `digits · 10 ^ exponent`. -/
structure Scaled where
  digits : Nat
  exponent : Int
deriving DecidableEq, Repr

namespace Binary

/-- What a point of the grid of `10 ^ k` is multiplied by in a comparison. -/
def gridFactor (b : Binary) (k : Int) : Nat :=
  Nat.pow 10 k.toNat * Nat.pow 2 (2 - b.exponent).toNat

/-- What a number of quarter units is multiplied by in a comparison. -/
def unitFactor (b : Binary) (k : Int) : Nat :=
  Nat.pow 10 (-k).toNat * Nat.pow 2 (b.exponent - 2).toNat

/-- The number itself in quarter units. -/
def center (b : Binary) : Nat :=
  4 * b.mantissa

/-- The lower end of the interval of reals that read as this number, in quarter units. -/
def low (b : Binary) : Nat :=
  4 * b.mantissa - (if b.closeBelow then 1 else 2)

/-- The upper end of that interval, in quarter units. -/
def high (b : Binary) : Nat :=
  4 * b.mantissa + 2

/-- Does the point `d · 10 ^ k` read as this number? -/
def readsBack (b : Binary) (k : Int) (d : Nat) : Bool :=
  let x := d * b.gridFactor k
  let l := b.low * b.unitFactor k
  let h := b.high * b.unitFactor k
  if b.mantissa % 2 = 0 then l ≤ x && x ≤ h else l < x && x < h

/-- The greatest point of the grid of `10 ^ k` that is not above the number. -/
def below (b : Binary) (k : Int) : Nat :=
  b.center * b.unitFactor k / b.gridFactor k

/-- Is the number nearer to the point `d` of the grid than to the next point? -/
def nearerBelow (b : Binary) (k : Int) (d : Nat) : Bool :=
  2 * (b.center * b.unitFactor k) < (2 * d + 1) * b.gridFactor k

/-- The point of the grid of `10 ^ k` that reads as the number and is nearest to it. -/
def onGrid? (b : Binary) (k : Int) : Option Nat :=
  let d := b.below k
  match b.readsBack k d, b.readsBack k (d + 1) with
  | true, true => some (if b.nearerBelow k d then d else d + 1)
  | true, false => some d
  | false, true => some (d + 1)
  | false, false => none

/-- Searches the grids from `10 ^ k` down, as many as `grids` says. -/
def search (b : Binary) (k : Int) : Nat → Scaled
  | 0 => ⟨b.below k, k⟩
  | grids + 1 =>
    match b.onGrid? k with
    | some d => ⟨d, k⟩
    | none => b.search (k - 1) grids

/-- A power of ten that is above the number. -/
def topExponent (b : Binary) : Int :=
  ((b.mantissa.log2 : Int) + b.exponent + 1) * 30103 / 100000 + 2

/-- The shortest decimal that reads as the number, and of the shortest the nearest. Seventeen digits
always suffice; the grids above the leading digit hold no hit. -/
def shortest (b : Binary) : Scaled :=
  b.search b.topExponent 24

end Binary

end FilterQuery.Number
