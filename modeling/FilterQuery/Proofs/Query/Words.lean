/-
The characters of words.

The reader of queries tells words apart by three classes of characters: blanks, the characters of
names and those of bare values. What its correctness rests on is how the classes lie to each other.
Names are ASCII and all their characters may stand in bare values; no blank may. The signs of the
grammar (parentheses, quotes and the characters of operators) are in none of the classes.
-/
import FilterQuery.Query.Word

set_option autoImplicit false

namespace FilterQuery

open Text (isBlank)

/-! ## Classes of characters -/

/-- What holds of the 128 characters of ASCII, one by one, holds of each character below the
129th. -/
theorem forall_ascii {p : Char → Bool} (h : ∀ n < 0x80, p (Char.ofNat n) = true) {c : Char}
    (hc : c.toNat < 0x80) : p c = true := by
  have := h c.toNat hc
  rwa [Char.ofNat_toNat] at this

/-- Names are typed in ASCII. -/
theorem toNat_lt_of_isNameChar {c : Char} (h : isNameChar c = true) : c.toNat < 0x80 := by
  unfold isNameChar Char.isAlphanum Char.isAlpha Char.isUpper Char.isLower Char.isDigit at h
  simp only [Bool.or_eq_true, Bool.and_eq_true, decide_eq_true_eq, beq_iff_eq,
    UInt32.le_iff_toNat_le, ge_iff_le] at h
  have hval : c.toNat = c.val.toNat := rfl
  have h9 : '9'.val.toNat = 57 := rfl
  have hZ : 'Z'.val.toNat = 90 := rfl
  have hz : 'z'.val.toNat = 122 := rfl
  rcases h with (((h | rfl) | rfl) | rfl) | rfl
  · omega
  all_goals decide

/-- A character of a name may stand in a bare value. -/
theorem isBareChar_of_isNameChar {c : Char} (h : isNameChar c = true) : isBareChar c = true := by
  have hall := forall_ascii (p := fun c => !isNameChar c || isBareChar c) (by decide +kernel)
    (toNat_lt_of_isNameChar h)
  simpa [h] using hall

/-- The blank characters, one by one. -/
def blankCodePoints : List Nat :=
  [0x09, 0x0A, 0x0B, 0x0C, 0x0D, 0x20, 0x85, 0xA0, 0x1680, 0x2000, 0x2001, 0x2002, 0x2003, 0x2004,
    0x2005, 0x2006, 0x2007, 0x2008, 0x2009, 0x200A, 0x2028, 0x2029, 0x202F, 0x205F, 0x3000]

/-- A character is blank if and only if it is listed. -/
theorem isBlank_iff_mem {c : Char} : isBlank c = true ↔ c.toNat ∈ blankCodePoints := by
  simp only [isBlank, blankCodePoints, Bool.or_eq_true, Bool.and_eq_true, decide_eq_true_eq,
    beq_iff_eq, List.mem_cons, List.not_mem_nil, or_false]
  omega

/-- No blank may stand in a bare value. -/
theorem isBareChar_eq_false_of_isBlank {c : Char} (h : isBlank c = true) :
    isBareChar c = false := by
  have hall : ∀ n ∈ blankCodePoints, isBareChar (Char.ofNat n) = false := by decide +kernel
  have := hall c.toNat (isBlank_iff_mem.1 h)
  rwa [Char.ofNat_toNat] at this

/-- What is no character of a bare value is none of a name. -/
theorem isNameChar_eq_false_of_not_bare {c : Char} (h : isBareChar c = false) :
    isNameChar c = false := by
  refine Bool.eq_false_iff.2 fun hc => ?_
  rw [isBareChar_of_isNameChar hc] at h
  exact absurd h (by decide)

/-- A character of a bare value is not blank. -/
theorem isBlank_eq_false_of_isBareChar {c : Char} (h : isBareChar c = true) :
    isBlank c = false := by
  refine Bool.eq_false_iff.2 fun hc => ?_
  rw [isBareChar_eq_false_of_isBlank hc] at h
  exact absurd h (by decide)

/-- A character of a name is not blank. -/
theorem isBlank_eq_false_of_isNameChar {c : Char} (h : isNameChar c = true) : isBlank c = false :=
  isBlank_eq_false_of_isBareChar (isBareChar_of_isNameChar h)

/-- The characters that begin the tokens of the grammar which are no words. -/
def signs : List Char :=
  ['(', ')', '!', '"', '=', '<', '>', ':']

/-- A sign ends a bare value. -/
theorem isBareChar_eq_false_of_mem_signs {c : Char} (h : c ∈ signs) : isBareChar c = false := by
  have hall : signs.all (!isBareChar ·) = true := by decide +kernel
  simpa using List.all_eq_true.1 hall c h

/-- A sign is not blank. -/
theorem isBlank_eq_false_of_mem_signs {c : Char} (h : c ∈ signs) : isBlank c = false := by
  have hall : signs.all (!isBlank ·) = true := by decide
  simpa using List.all_eq_true.1 hall c h

/-- A letter of ASCII may stand in a name. -/
theorem isNameChar_of_isAlpha {c : Char} (h : c.isAlpha = true) : isNameChar c = true := by
  simp [isNameChar, Char.isAlphanum, h]

/-! ## Words in any case -/

/-- Only a letter has a letter as its small letter. -/
theorem isAlpha_of_isAlpha_toLower {c : Char} (h : c.toLower.isAlpha = true) :
    c.isAlpha = true := by
  unfold Char.toLower at h
  split at h
  · rename_i hupper
    unfold Char.isAlpha Char.isUpper
    rw [Bool.or_eq_true, decide_eq_true_eq]
    exact .inl hupper
  · exact h

/-- A spelling of a word of letters has letters only. -/
theorem isAlpha_of_spells {word : String} {s : List Char} (h : spells word s = true)
    (hword : word.toList.all Char.isAlpha = true) : ∀ c ∈ s, c.isAlpha = true := by
  intro c hc
  rw [spells, beq_iff_eq] at h
  exact isAlpha_of_isAlpha_toLower (List.all_eq_true.1 hword _ (h ▸ List.mem_map_of_mem hc))

/-- A spelling of a word is as long as the word. -/
theorem length_of_spells {word : String} {s : List Char} (h : spells word s = true) :
    s.length = word.length := by
  rw [spells, beq_iff_eq] at h
  rw [← String.length_toList, ← h, List.length_map]

/-! ## Names -/

/-- A name by its characters. -/
theorem isName_iff {s : String} :
    isName s = true ↔ ∃ c r, s.toList = c :: r ∧ isNameStart c = true ∧
      (∀ x ∈ r, isNameChar x = true) ∧ reservedWord? s.toList = none := by
  unfold isName
  cases h : s.toList with
  | nil => simp [isNameText]
  | cons c r => simp [isNameText, and_assoc]

end FilterQuery
