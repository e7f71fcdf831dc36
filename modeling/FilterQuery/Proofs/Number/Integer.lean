/-
Integers of 64 bits are read back as they are written.

What is written is a minus, if the number needs one, and the digits of its absolute value. The
reader takes the sign off and reads the digits, and a number that comes from 64 bits is never too
large for them.
-/
import FilterQuery.Number.Integer

set_option autoImplicit false

namespace FilterQuery.Number

/-! ## Digits -/

/-- The digits of a number stand for it. -/
theorem ofDigits_toDigits (n : Nat) : ofDigits (Nat.toDigits 10 n) = n :=
  Nat.ofDigitChars_ten_toDigits

theorem isDigit_of_mem_toDigits {n : Nat} {c : Char} (hc : c ∈ Nat.toDigits 10 n) :
    c.isDigit = true :=
  Nat.isDigit_of_mem_toDigits (by decide) (by decide) hc

theorem isDigits_toDigits (n : Nat) : isDigits (Nat.toDigits 10 n) = true := by
  simp only [isDigits, Bool.and_eq_true, List.all_eq_true]
  exact ⟨by simp [Nat.toDigits_ne_nil], fun _ => isDigit_of_mem_toDigits⟩

/-- Digits begin with no sign. -/
theorem takeSign_toDigits (n : Nat) :
    takeSign (Nat.toDigits 10 n) = (false, Nat.toDigits 10 n) := by
  unfold takeSign
  split
  · rename_i r heq
    exact absurd (isDigit_of_mem_toDigits (heq ▸ List.mem_cons_self)) (by decide)
  · rename_i r heq
    exact absurd (isDigit_of_mem_toDigits (heq ▸ List.mem_cons_self)) (by decide)
  · rfl

/-! ## Integers -/

/-- The characters of an integer. -/
theorem toList_toString_int (n : Int) :
    (toString n).toList =
      if 0 ≤ n then Nat.toDigits 10 n.toNat else '-' :: Nat.toDigits 10 (-n).toNat := by
  rw [Int.toString_eq_repr, Int.repr_eq_if]
  split
  · exact Nat.toList_repr
  · rw [String.toList_append, Nat.toList_repr]
    rfl

/-- Digits, with a minus or without, are read as the number that they stand for. -/
theorem readInt?_of_takeSign {s : List Char} {negative : Bool} {n : Nat}
    (h : takeSign s = (negative, Nat.toDigits 10 n)) : readInt? s = some (signed negative n) := by
  simp only [readInt?, h, isDigits_toDigits, ofDigits_toDigits, if_true]

theorem readInt?_toString (n : Int) : readInt? (toString n).toList = some n := by
  rw [toList_toString_int]
  split
  · rw [readInt?_of_takeSign (takeSign_toDigits _), signed, if_neg (by decide)]
    exact congrArg some (by omega)
  · have hsign : takeSign ('-' :: Nat.toDigits 10 (-n).toNat) = (true, _) := rfl
    rw [readInt?_of_takeSign hsign, signed, if_pos rfl]
    exact congrArg some (by omega)

/-- What comes from 64 bits is never too large for them. -/
theorem toInt64?_toInt (n : Int64) : toInt64? n.toInt = some n := by
  rw [toInt64?, if_pos ⟨n.minValue_le_toInt, n.toInt_le⟩, Int64.ofInt_toInt]

/-- Every integer of 64 bits has an opposite in them, except the least. -/
theorem toInt_neg_of_ne {n : Int64} (h : n ≠ Int64.minValue) : (-n).toInt = -n.toInt := by
  have hlower : -2 ^ 63 ≤ n.toInt := n.minValue_le_toInt
  have hupper : n.toInt < 2 ^ 63 := n.toInt_lt
  have hne : n.toInt ≠ -2 ^ 63 := fun heq => h (Int64.toInt_inj.1 heq)
  rw [Int64.toInt_neg]
  exact Int.bmod_eq_of_le (by omega) (by omega)

/-- **Every integer of 64 bits reads back** from its decimal digits. -/
theorem readInt64?_showInt64 (n : Int64) : readInt64? (showInt64 n).toList = some n := by
  rw [readInt64?, showInt64, readInt?_toString, Option.bind_some, toInt64?_toInt]

end FilterQuery.Number
