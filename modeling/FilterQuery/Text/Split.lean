/-
Cutting a text at separators.
-/
set_option autoImplicit false

namespace FilterQuery.Text

/-- Cuts a text at its first character with the property `p`, which is dropped. The second part is
missing if there is no such character. -/
def cutAtFirst (p : Char → Bool) (s : List Char) : List Char × Option (List Char) :=
  match s.dropWhile (!p ·) with
  | [] => (s, none)
  | _ :: after => (s.takeWhile (!p ·), some after)

/-- The fields of a text between all its separators, one more than there are separators. -/
def fields (separator : Char) : List Char → List (List Char)
  | [] => [[]]
  | c :: r =>
    if c == separator then [] :: fields separator r
    else match fields separator r with
      | [] => [[c]]
      | f :: fs => (c :: f) :: fs

/-- There is always at least one field. -/
theorem fields_ne_nil (separator : Char) (s : List Char) : fields separator s ≠ [] := by
  cases s with
  | nil => simp [fields]
  | cons c r =>
    simp only [fields]
    split
    · simp
    · split <;> simp

end FilterQuery.Text
