/-
Lower case for whole texts.

Almost every capital has one lower-case letter of its own, whatever stands around it. There are two
exceptions: the dotted capital I becomes a small i followed by a combining dot, and the capital
sigma has two small forms, of which the final one is used at the end of a word. A word ends after a
sigma when, looking through characters that case ignores, there is a letter with case before it and
none after it.
-/
import FilterQuery.Text.CaseTables

set_option autoImplicit false

namespace FilterQuery.Text

/-- The single lower-case letter of a character, or the character itself if it has none. -/
def lowerChar (c : Char) : Char :=
  if c.toNat < 0x80 then c.toLower
  else match capitalsBeyondAscii.find? (·.holds c.toNat) with
    | some run => Char.ofNat ((c.toNat : Int) + run.distance).toNat
    | none => c

/-- Is the nearest character that case does not ignore one with case? -/
def reachesCased (s : List Char) : Bool :=
  match s.dropWhile isCaseIgnorable with
  | [] => false
  | c :: _ => isCased c

/-- The lower-case form of `c`, where `before` stands before it, nearest first, and `after` follows
it. -/
def lowerInContext (before : List Char) (c : Char) (after : List Char) : List Char :=
  if c = '\u0130' then ['i', '\u0307']
  else if c = '\u03A3' then
    if reachesCased before && !reachesCased after then ['\u03C2'] else ['\u03C3']
  else [lowerChar c]

/-- The lower-case form of a text of which `before` has been read, nearest first, and `written`
written, last first. -/
def lowerFrom (written before : List Char) : List Char → List Char
  | [] => written.reverse
  | c :: after =>
    lowerFrom ((lowerInContext before c after).reverse ++ written) (c :: before) after

/-- The lower-case form of a text. -/
def lowercase (s : String) : String :=
  String.ofList (lowerFrom [] [] s.toList)

/-- Is the text in lower case throughout, as `lowercase` would write some text? -/
def IsLowered (s : String) : Prop :=
  ∃ typed : String, s = lowercase typed

/-- What `lowercase` writes is in lower case. -/
theorem isLowered_lowercase (s : String) : IsLowered (lowercase s) :=
  ⟨s, rfl⟩

/-- In ASCII the lower-case letter is the one that differs in the case bit. -/
theorem lowerInContext_of_ascii {before after : List Char} {c : Char} (h : c.toNat < 0x80) :
    lowerInContext before c after = [c.toLower] := by
  have h1 : c ≠ '\u0130' := by rintro rfl; revert h; decide
  have h2 : c ≠ '\u03A3' := by rintro rfl; revert h; decide
  simp [lowerInContext, lowerChar, h, h1, h2]

/-- **A text in ASCII is lowered letter by letter.** -/
theorem lowerFrom_of_ascii {s : List Char} (h : ∀ c ∈ s, c.toNat < 0x80)
    (written before : List Char) :
    lowerFrom written before s = written.reverse ++ s.map Char.toLower := by
  induction s generalizing written before with
  | nil => simp [lowerFrom]
  | cons c r ih =>
    have hc := h c List.mem_cons_self
    simp [lowerFrom, lowerInContext_of_ascii hc, ih fun x hx => h x (List.mem_cons_of_mem _ hx)]

end FilterQuery.Text
