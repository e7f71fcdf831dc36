/-
Numbers with zeros in front.

A number that is filled up with zeros still consists of digits, stands for the same number, and has
as many places as were asked for unless it needs more. And there is no other way to come by digits:
a number and how many places it is written in say which they are. That is all that dates and clocks
need to know of their fields. With a sign it is an integer as it may be typed.
-/
import FilterQuery.Proofs.Number.Integer
import Mathlib.Algebra.Group.Nat.Defs
import Mathlib.Data.List.Induction

set_option autoImplicit false

namespace FilterQuery.Number

/-- A text that begins with a digit has no sign to take off. -/
theorem takeSign_of_isDigit {s : List Char} (h : ∀ c ∈ s.head?, c.isDigit = true) :
    takeSign s = (false, s) := by
  unfold takeSign
  split
  · exact absurd (h '-' rfl) (by decide)
  · exact absurd (h '+' rfl) (by decide)
  · rfl

/-- Digits begin with a digit. -/
theorem isDigit_of_head?_append {s : List Char} (hs : isDigits s = true) (rest : List Char) :
    ∀ c ∈ (s ++ rest).head?, c.isDigit = true := by
  simp only [isDigits, Bool.and_eq_true, List.all_eq_true] at hs
  cases s with
  | nil => simp at hs
  | cons d r =>
    intro c hc
    obtain rfl : d = c := by simpa using hc
    exact hs.2 d List.mem_cons_self

theorem toList_padded (width n : Nat) :
    (padded width n).toList =
      List.replicate (width - (Nat.toDigits 10 n).length) '0' ++ Nat.toDigits 10 n :=
  String.toList_ofList

/-- A number that is filled up consists of digits. -/
theorem isDigits_padded (width n : Nat) : isDigits (padded width n).toList = true := by
  have hdigits := isDigits_toDigits n
  rw [toList_padded]
  simp only [isDigits, Bool.and_eq_true, List.all_append, Bool.not_eq_true'] at hdigits ⊢
  refine ⟨by simp [Nat.toDigits_ne_nil], ?_, hdigits.2⟩
  rw [List.all_eq_true]
  intro c hc
  rw [List.eq_of_mem_replicate hc]
  decide

theorem isDigit_of_mem_padded {width n : Nat} {c : Char} (hc : c ∈ (padded width n).toList) :
    c.isDigit = true := by
  have hdigits := isDigits_padded width n
  rw [isDigits, Bool.and_eq_true] at hdigits
  exact List.all_eq_true.1 hdigits.2 c hc

/-- **Zeros in front of a number do not change it.** -/
theorem ofDigits_padded (width n : Nat) : ofDigits (padded width n).toList = n := by
  have hzeros (k : Nat) : ofDigits (List.replicate k '0' ++ Nat.toDigits 10 n) = n := by
    have happend := Nat.ofDigitChars_append (b := 10) (l := List.replicate k '0')
      (m := Nat.toDigits 10 n) 0
    rw [Nat.ofDigitChars_replicate_zero, Nat.mul_zero] at happend
    exact happend.trans (ofDigits_toDigits n)
  rw [toList_padded]
  exact hzeros _

/-- Filling up a number takes no more places than the number, or the width, may take. -/
theorem length_padded_le {width places n : Nat} (hplaces : 0 < places) (hwidth : width ≤ places)
    (hn : n < 10 ^ places) : (padded width n).toList.length ≤ places := by
  have hlength := (Nat.length_toDigits_le_iff (by decide) hplaces).2 hn
  rw [toList_padded, List.length_append, List.length_replicate]
  omega

/-- A number that does not need more places has as many as were asked for. -/
theorem length_padded {width n : Nat} (hwidth : 0 < width) (hn : n < 10 ^ width) :
    (padded width n).toList.length = width := by
  have hlength := (Nat.length_toDigits_le_iff (by decide) hwidth).2 hn
  rw [toList_padded, List.length_append, List.length_replicate]
  omega

/-! ## Digits by their number of places -/

theorem ofDigits_append (s r : List Char) :
    ofDigits (s ++ r) = 10 ^ r.length * ofDigits s + ofDigits r :=
  (Nat.ofDigitChars_append 0).trans Nat.ofDigitChars_eq_ofDigitChars_zero

/-- Zeros at the end of digits are places that the number is moved up by. -/
theorem ofDigits_append_zeros (s : List Char) (k : Nat) :
    ofDigits (s ++ List.replicate k '0') = ofDigits s * 10 ^ k := by
  have hzeros : ofDigits (List.replicate k '0') = 0 := Nat.ofDigitChars_replicate_zero
  rw [ofDigits_append, hzeros, List.length_replicate, Nat.add_zero, Nat.mul_comm]

/-- What a digit adds to the number of the digits before it. -/
theorem ofDigits_concat {s : List Char} {c : Char} (hc : c.isDigit = true) :
    ∃ d < 10, c.toNat = 48 + d ∧ ofDigits (s ++ [c]) = 10 * ofDigits s + d := by
  obtain ⟨hlower, hupper⟩ := Char.isDigit_iff_toNat.1 hc
  have hzero : '0'.toNat = 48 := rfl
  have hnine : '9'.toNat = 57 := rfl
  refine ⟨c.toNat - 48, by omega, by omega, ?_⟩
  rw [ofDigits_append]
  simp [ofDigits]

/-- Digits stand for no more than there is room for in their places. -/
theorem ofDigits_lt {s : List Char} (hs : ∀ c ∈ s, c.isDigit = true) :
    ofDigits s < 10 ^ s.length := by
  induction s using List.reverseRecOn with
  | nil => decide
  | append_singleton s c ih =>
    obtain ⟨d, hd, -, hvalue⟩ := ofDigits_concat (s := s) (hs c (by simp))
    have hfront := ih fun x hx => hs x (List.mem_append_left [c] hx)
    rw [hvalue, List.length_append, List.length_singleton, Nat.pow_succ]
    omega

/-- **Digits in as many places that stand for the same number are the same digits.** -/
theorem eq_of_ofDigits_eq {s t : List Char} (hs : ∀ c ∈ s, c.isDigit = true)
    (ht : ∀ c ∈ t, c.isDigit = true) (hlength : s.length = t.length)
    (h : ofDigits s = ofDigits t) : s = t := by
  induction s using List.reverseRecOn generalizing t with
  | nil => exact (List.eq_nil_of_length_eq_zero hlength.symm).symm
  | append_singleton s c ih =>
    obtain rfl | ⟨t, c', rfl⟩ := List.eq_nil_or_concat t
    · simp at hlength
    · rw [List.concat_eq_append] at ht hlength h ⊢
      obtain ⟨d, hd, hc, hvalue⟩ := ofDigits_concat (s := s) (hs c (by simp))
      obtain ⟨d', hd', hc', hvalue'⟩ := ofDigits_concat (s := t) (ht c' (by simp))
      rw [hvalue, hvalue'] at h
      have hlast : c = c' := Char.toNat_inj.1 (by omega)
      have hfront : s = t := ih (fun x hx => hs x (List.mem_append_left [c] hx))
        (fun x hx => ht x (List.mem_append_left [c'] hx)) (by simpa using hlength) (by omega)
      rw [hlast, hfront]

theorem isDigits_iff {s : List Char} :
    isDigits s = true ↔ s ≠ [] ∧ ∀ c ∈ s, c.isDigit = true := by
  simp [isDigits]

/-- `InPlaces places n s`: the text is the number in so many digits, of which those in front may be
zeros. -/
structure InPlaces (places n : Nat) (s : List Char) : Prop where
  places_pos : 0 < places
  lt : n < 10 ^ places
  eq : s = (padded places n).toList

/-- **So any digits are a number in places**, namely the number that they are read as. -/
theorem inPlaces_iff {places n : Nat} {s : List Char} :
    InPlaces places n s ↔ isDigits s = true ∧ s.length = places ∧ ofDigits s = n := by
  constructor
  · rintro ⟨hpos, hlt, rfl⟩
    exact ⟨isDigits_padded places n, length_padded hpos hlt, ofDigits_padded places n⟩
  · rintro ⟨hdigits, rfl, rfl⟩
    obtain ⟨hne, hall⟩ := isDigits_iff.1 hdigits
    have hpos : 0 < s.length := List.length_pos_iff.2 hne
    have hlt := ofDigits_lt hall
    refine ⟨hpos, hlt, eq_of_ofDigits_eq hall (fun c => isDigit_of_mem_padded) ?_ ?_⟩
    · exact (length_padded hpos hlt).symm
    · exact (ofDigits_padded _ _).symm

/-! ## Integers as they are typed -/

/-- `SpellsInteger s n`: the text is the number in decimal digits, with a sign if there is one to
write or a plus for the sake of it, and with any number of zeros in front. -/
inductive SpellsInteger : List Char → Int → Prop
  | unsigned (width n : Nat) : SpellsInteger (padded width n).toList n
  | plus (width n : Nat) : SpellsInteger ('+' :: (padded width n).toList) n
  | minus (width n : Nat) : SpellsInteger ('-' :: (padded width n).toList) (-n)

/-- An integer is written in one of these ways. -/
theorem spellsInteger_showInt64 (n : Int64) : SpellsInteger (showInt64 n).toList n.toInt := by
  have hdigits (k : Nat) : Nat.toDigits 10 k = (padded 0 k).toList := by
    rw [toList_padded, Nat.zero_sub, List.replicate_zero, List.nil_append]
  rw [showInt64, toList_toString_int]
  split
  · rename_i hn
    obtain ⟨k, hk⟩ := Int.eq_ofNat_of_zero_le hn
    rw [hk, Int.toNat_natCast, hdigits]
    exact .unsigned 0 k
  · rename_i hn
    obtain ⟨k, hk⟩ := Int.exists_eq_neg_ofNat (Int.le_of_not_le hn)
    rw [hk, Int.neg_neg, Int.toNat_natCast, hdigits]
    exact .minus 0 k

namespace SpellsInteger

variable {s : List Char}

/-- It is read as that number, in whichever way it is typed. -/
theorem readInt? {n : Int} (h : SpellsInteger s n) : Number.readInt? s = some n := by
  cases h with
  | unsigned width n =>
    have hhead := isDigit_of_head?_append (isDigits_padded width n) []
    rw [List.append_nil] at hhead
    rw [Number.readInt?, takeSign_of_isDigit hhead]
    simp only [isDigits_padded, ofDigits_padded, if_true, signed]
    rfl
  | plus width n =>
    simp only [Number.readInt?, takeSign, isDigits_padded, ofDigits_padded, if_true, signed]
    rfl
  | minus width n =>
    simp only [Number.readInt?, takeSign, isDigits_padded, ofDigits_padded, if_true, signed]

/-- It has digits and signs in it, and nothing else. -/
theorem isDigit_or_sign {n : Int} (h : SpellsInteger s n) {c : Char} (hc : c ∈ s) :
    c.isDigit = true ∨ c = '+' ∨ c = '-' := by
  cases h with
  | unsigned => exact .inl (isDigit_of_mem_padded hc)
  | plus =>
    obtain rfl | hc := List.mem_cons.1 hc
    · exact .inr (.inl rfl)
    · exact .inl (isDigit_of_mem_padded hc)
  | minus =>
    obtain rfl | hc := List.mem_cons.1 hc
    · exact .inr (.inr rfl)
    · exact .inl (isDigit_of_mem_padded hc)

theorem ne_nil {n : Int} (h : SpellsInteger s n) : s ≠ [] := by
  cases h with
  | unsigned width n =>
    rintro hnil
    have hdigits := isDigits_padded width n
    rw [hnil] at hdigits
    exact absurd hdigits (by decide)
  | plus => exact List.cons_ne_nil _ _
  | minus => exact List.cons_ne_nil _ _

end SpellsInteger

end FilterQuery.Number
