/-
Canonical composition.

The same letter can be one character or a base character with marks, and several marks can stand in
several orders. The composed form settles both: marks are put in the order of their classes, and
what can be one character is made one. Three steps lead there: take every character apart, sort each
run of marks, and join each mark to the last base character if nothing of its class or a later one
stands between them.
-/
import FilterQuery.Text.CompositionTable

set_option autoImplicit false

namespace FilterQuery.Text

/-! ## Taking apart -/

/-- The letters that a syllable of Hangul is made of. -/
def hangulLetters? (n : Nat) : Option (List Char) :=
  if 0xAC00 ≤ n && n ≤ 0xD7A3 then
    let i := n - 0xAC00
    let leading := Char.ofNat (0x1100 + i / 588)
    let vowel := Char.ofNat (0x1161 + i % 588 / 28)
    if i % 28 = 0 then some [leading, vowel]
    else some [leading, vowel, Char.ofNat (0x11A7 + i % 28)]
  else none

/-- Takes a character apart, as often as `depth` says. No character needs more than four times. -/
def takeApart (c : Char) : Nat → List Char
  | 0 => [c]
  | depth + 1 =>
    match compositions.find? (·.1 == c.toNat) with
    | some (_, first, second) => takeApart (Char.ofNat first) depth ++ [Char.ofNat second]
    | none => [c]

/-- A character as its base and its marks. -/
def decompose (c : Char) : List Char :=
  if c.toNat < 0x80 then [c]
  else (hangulLetters? c.toNat).getD (takeApart c 4)

/-! ## Sorting marks -/

/-- Puts a mark, with its class, before the marks that follow it, behind those of a lower class. -/
def insertMark (m : Nat × Char) : List (Nat × Char) → List (Nat × Char)
  | [] => [m]
  | x :: xs => if x.1 ≠ 0 && x.1 < m.1 then x :: insertMark m xs else m :: x :: xs

/-- Sorts every run of marks by their classes; marks of one class keep their order. -/
def sortMarks : List (Nat × Char) → List (Nat × Char)
  | [] => []
  | m :: rest => if m.1 = 0 then m :: sortMarks rest else insertMark m (sortMarks rest)

/-! ## Putting together -/

/-- The syllable of Hangul that two characters make up. -/
def hangulSyllable? (first second : Nat) : Option Nat :=
  if 0x1100 ≤ first && first ≤ 0x1112 && 0x1161 ≤ second && second ≤ 0x1175 then
    some (0xAC00 + ((first - 0x1100) * 21 + (second - 0x1161)) * 28)
  else if 0xAC00 ≤ first && first ≤ 0xD7A3 && (first - 0xAC00) % 28 = 0 &&
      0x11A8 ≤ second && second ≤ 0x11C2 then
    some (first + (second - 0x11A7))
  else none

/-- The one character that two make up. -/
def join? (first second : Char) : Option Char :=
  match hangulSyllable? first.toNat second.toNat with
  | some n => some (Char.ofNat n)
  | none =>
    let row := compositions.find? fun (_, f, s) => f == first.toNat && s == second.toNat
    row.map fun (whole, _) => Char.ofNat whole

/-- What has been put together: the finished characters, last first, the base character at hand, and
the marks after it that could not be joined, last first and with their classes. -/
structure Composer where
  finished : List Char := []
  base : Option Char := none
  marks : List (Nat × Char) := []

namespace Composer

/-- Everything that has been put together, last first. -/
def all (s : Composer) : List Char :=
  s.marks.map (·.2) ++ (s.base.toList ++ s.finished)

/-- Is a character of this class cut off from the base by a mark of its class or a later one? -/
def blocks (s : Composer) (rank : Nat) : Bool :=
  match s.marks with
  | [] => false
  | (last, _) :: _ => rank ≤ last

/-- Adds a character that cannot be joined to the base. -/
def append (s : Composer) (m : Nat × Char) : Composer :=
  if m.1 = 0 then ⟨s.all, some m.2, []⟩ else { s with marks := m :: s.marks }

/-- Adds a character. -/
def push (s : Composer) (m : Nat × Char) : Composer :=
  match s.base with
  | none => s.append m
  | some b =>
    if s.blocks m.1 then s.append m
    else match join? b m.2 with
      | some whole => { s with base := some whole }
      | none => s.append m

end Composer

/-- The composed form of a text. -/
def compose (s : List Char) : List Char :=
  let marked := (s.flatMap decompose).map fun c => (combiningClass c, c)
  ((sortMarks marked).foldl Composer.push {}).all.reverse

end FilterQuery.Text
