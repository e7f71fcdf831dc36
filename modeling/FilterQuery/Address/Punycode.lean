/-
Labels of a domain written in ASCII.

A label with other characters is sent as `xn--` followed by its ASCII characters, a hyphen, and the
other characters as a row of numbers in base 36, each of which says how far to move on from the last
insertion, through all places of the label and then on to the next code point. The thresholds that
end a number adapt to the numbers before it.
-/
set_option autoImplicit false

namespace FilterQuery.Address.Punycode

/-- The value of a digit in base 36. -/
def digit? (c : Char) : Option Nat :=
  if c.isLower then some (c.toNat - 'a'.toNat)
  else if c.isDigit then some (c.toNat - '0'.toNat + 26)
  else none

/-- The digit below which a number ends, at the place `k` of the number. -/
def threshold (bias k : Nat) : Nat :=
  if k ≤ bias then 1 else if bias + 26 ≤ k then 26 else k - bias

/-- Divides by 35 until little is left; at most as often as `steps` says. -/
def shrink (delta k : Nat) : Nat → Nat × Nat
  | 0 => (delta, k)
  | steps + 1 => if 455 < delta then shrink (delta / 35) (k + 36) steps else (delta, k)

/-- The bias after a move by `delta` in a label that has grown to `size` characters. -/
def adapt (delta size : Nat) (isFirst : Bool) : Nat :=
  let halved := if isFirst then delta / 700 else delta / 2
  let (rest, k) := shrink (halved + halved / size) 0 8
  k + 36 * rest / (rest + 38)

/-- Reads one number, of which `weight` is the worth of the next digit, and adds it to `sum`.
Nothing may grow beyond 32 bits. -/
def readNumber? (bias : Nat) : List Char → Nat → Nat → Nat → Option (Nat × List Char)
  | [], _, _, _ => none
  | c :: rest, k, weight, sum => do
    let d ← digit? c
    let t := threshold bias k
    let next := sum + d * weight
    if UInt32.size ≤ next then none
    else if d < t then some (next, rest)
    else if UInt32.size ≤ weight * (36 - t) then none
    else readNumber? bias rest (k + 36) (weight * (36 - t)) next

/-- Where the reader of insertions stands. -/
structure Decoder where
  label : List Char
  codePoint : Nat := 128
  place : Nat := 0
  bias : Nat := 72

/-- Reads one insertion. -/
def Decoder.insert? (d : Decoder) (s : List Char) : Option (Decoder × List Char) := do
  let (moved, rest) ← readNumber? d.bias s 36 1 d.place
  let size := d.label.length + 1
  let codePoint := d.codePoint + moved / size
  let place := moved % size
  if codePoint.isValidChar then
    some (⟨d.label.take place ++ Char.ofNat codePoint :: d.label.drop place, codePoint, place + 1,
      adapt (moved - d.place) size (d.place == 0)⟩, rest)
  else none

/-- Reads insertions to the end of the text, at most as many as `steps` says. -/
def Decoder.run? (d : Decoder) (s : List Char) : Nat → Option (List Char)
  | 0 => if s.isEmpty then some d.label else none
  | steps + 1 =>
    if s.isEmpty then some d.label
    else match d.insert? s with
      | some (next, rest) => next.run? rest steps
      | none => none

/-- The label that is written like this, without its `xn--`. The last hyphen, unless the text begins
with it, ends the ASCII characters. -/
def decode? (s : List Char) : Option (List Char) :=
  let after := (s.reverse.takeWhile (· != '-')).reverse
  let base := s.take (s.length - after.length - 1)
  if after.length = s.length then Decoder.run? ⟨[], 128, 0, 72⟩ s s.length
  else if base.isEmpty then none
  else Decoder.run? ⟨base, 128, 0, 72⟩ after after.length

end FilterQuery.Address.Punycode
