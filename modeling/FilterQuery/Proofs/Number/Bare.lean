/-
Numbers as bare values.

Whatever is written as a number, in any of the three forms, may be typed without quotes: it consists
of characters of bare values and begins with a digit, a sign or a point. Neither a name nor `null`
begins like that. Only the doubles that are no numbers are written as words.
-/
import FilterQuery.Number.Double
import FilterQuery.Proofs.Number.Integer
import FilterQuery.Proofs.Query.Tokens

set_option autoImplicit false

namespace FilterQuery.Number

/-! ## Texts of numbers -/

/-- May a number begin with this character? -/
def beginsNumber (c : Char) : Bool :=
  Text.isDecimalDigit c || c == '-' || c == '+' || c == '.'

/-- A bare value that begins as a number does. -/
structure IsNumberText (s : List Char) : Prop where
  begins : ∃ c r, s = c :: r ∧ beginsNumber c = true
  bare : ∀ c ∈ s, isBareChar c = true

theorem isBareChar_of_isDecimalDigit {c : Char} (h : Text.isDecimalDigit c = true) :
    isBareChar c = true := by
  simp [isBareChar, Text.isAlphanumeric_of_isDecimalDigit h]

theorem isBareChar_of_beginsNumber {c : Char} (h : beginsNumber c = true) :
    isBareChar c = true := by
  simp only [beginsNumber, Bool.or_eq_true] at h
  rcases h with ((h | h) | h) | h
  · exact isBareChar_of_isDecimalDigit h
  all_goals simp [isBareChar, h]

/-- A digit of ASCII is one of those that decimals are written with. -/
theorem isDecimalDigit_of_isDigit {c : Char} (h : c.isDigit = true) :
    Text.isDecimalDigit c = true := by
  have hlt := toNat_lt_of_isNameChar (c := c) (by simp [isNameChar, Char.isAlphanum, h])
  simp [Text.isDecimalDigit, hlt, h]

theorem beginsNumber_of_isDigit {c : Char} (h : c.isDigit = true) : beginsNumber c = true := by
  simp [beginsNumber, isDecimalDigit_of_isDigit h]

/-- No name begins as a number does. -/
theorem isNameStart_eq_false_of_beginsNumber {c : Char} (h : beginsNumber c = true) :
    isNameStart c = false := by
  refine Bool.eq_false_iff.2 fun hc => ?_
  have hall := forall_ascii (p := fun c => !isNameStart c || !beginsNumber c) (by decide +kernel)
    (toNat_lt_of_isNameChar (isNameChar_of_isNameStart hc))
  simp [h, hc] at hall

/-- A sign or a digit, and what may stand in a bare value. -/
theorem IsNumberText.cons {c : Char} {r : List Char} (hc : beginsNumber c = true)
    (hr : ∀ x ∈ r, isBareChar x = true) : IsNumberText (c :: r) where
  begins := ⟨c, r, rfl, hc⟩
  bare := by
    rintro x (_ | ⟨_, hx⟩)
    · exact isBareChar_of_beginsNumber hc
    · exact hr x hx

/-- A sign before a number. -/
theorem IsNumberText.signed {s : List Char} (h : IsNumberText s) {c : Char}
    (hc : c = '-' ∨ c = '+') : IsNumberText (c :: s) :=
  .cons (by rcases hc with rfl | rfl <;> decide) h.bare

/-- **A number may be typed without quotes.** -/
theorem IsNumberText.wellFormed {text : String} (h : IsNumberText text.toList) :
    (Literal.bare text).WellFormed := by
  obtain ⟨c, r, hs, hc⟩ := h.begins
  refine ⟨by simp [hs], h.bare, Bool.eq_false_iff.2 fun hnull => ?_⟩
  have halpha : c.isAlpha = true :=
    isAlpha_of_spells hnull (by decide) c (hs ▸ List.mem_cons_self)
  have := isNameStart_eq_false_of_beginsNumber hc
  simp [isNameStart, halpha] at this

/-! ## Integers -/

theorem isNumberText_toDigits (n : Nat) : IsNumberText (Nat.toDigits 10 n) := by
  have hdigit : ∀ c ∈ Nat.toDigits 10 n, c.isDigit = true := fun _ => isDigit_of_mem_toDigits
  obtain ⟨c, r, heq⟩ := List.exists_cons_of_ne_nil (Nat.toDigits_ne_nil (n := n) (b := 10))
  rw [heq] at hdigit ⊢
  exact .cons (beginsNumber_of_isDigit (hdigit c List.mem_cons_self)) fun x hx =>
    isBareChar_of_isDecimalDigit (isDecimalDigit_of_isDigit (hdigit x (List.mem_cons_of_mem _ hx)))

theorem isNumberText_showInt64 (n : Int64) : IsNumberText (showInt64 n).toList := by
  rw [showInt64, toList_toString_int]
  split
  · exact isNumberText_toDigits _
  · exact (isNumberText_toDigits _).signed (.inl rfl)

/-! ## Doubles -/

/-- Is the double a number, neither infinite nor undefined? -/
def DoubleKind.IsFinite : DoubleKind → Prop
  | zero _ => True
  | finite _ _ => True
  | _ => False

/-- Positional notation is digits, with a point among them that is not the first character. -/
theorem isNumberText_positional (s : Scaled) : IsNumberText s.positional := by
  have hdigits := isNumberText_toDigits s.digits
  have hzeros : ∀ n, ∀ x ∈ List.replicate n '0', isBareChar x = true := by
    intro n x hx
    obtain rfl := List.eq_of_mem_replicate hx
    decide
  unfold Scaled.positional
  dsimp only
  obtain ⟨c, r, heq, hc⟩ := hdigits.begins
  have hbare := hdigits.bare
  split
  · -- A whole number, perhaps with zeros added.
    rw [heq, List.cons_append]
    rw [heq] at hbare
    refine .cons hc fun x hx => ?_
    obtain hx | hx := List.mem_append.1 hx
    · exact hbare x (List.mem_cons_of_mem _ hx)
    · exact hzeros _ x hx
  · split
    · -- The point is among the digits, with at least one digit before it.
      rename_i hplaces
      obtain ⟨k, hk⟩ : ∃ k, (Nat.toDigits 10 s.digits).length - (-s.exponent).toNat = k + 1 :=
        ⟨_, (Nat.succ_pred_eq_of_pos (Nat.sub_pos_of_lt hplaces)).symm⟩
      rw [hk, heq, List.take_succ_cons, List.cons_append]
      rw [heq] at hbare
      refine .cons hc fun x hx => ?_
      obtain hx | hx := List.mem_append.1 hx
      · exact hbare x (List.mem_cons_of_mem _ (List.mem_of_mem_take hx))
      · obtain rfl | hx := List.mem_cons.1 hx
        · decide
        · exact hbare x (List.mem_of_mem_drop hx)
    · -- The point is before all digits, and a zero is put before the point.
      refine .cons (by decide) fun x hx => ?_
      obtain rfl | hx := List.mem_cons.1 hx
      · decide
      · obtain hx | hx := List.mem_append.1 hx
        · exact hzeros _ x hx
        · exact hbare x hx

theorem isNumberText_withSign {s : List Char} (h : IsNumberText s) (negative : Bool) :
    IsNumberText (withSign negative s) := by
  cases negative with
  | true => exact h.signed (.inl rfl)
  | false => exact h

theorem isNumberText_showDouble {x : Float} (hx : (DoubleKind.ofBits x.toBits.toNat).IsFinite) :
    IsNumberText (showDouble x).toList := by
  rw [showDouble, String.toList_ofList]
  cases h : DoubleKind.ofBits x.toBits.toNat with
  | notANumber => simp [h, DoubleKind.IsFinite] at hx
  | infinite negative => simp [h, DoubleKind.IsFinite] at hx
  | zero negative =>
    exact isNumberText_withSign (.cons (by decide) (by simp)) negative
  | finite negative magnitude =>
    exact isNumberText_withSign (isNumberText_positional _) negative

/-! ## Decimals -/

theorem eq_of_takeSign {s unsigned : List Char} {negative : Bool}
    (h : takeSign s = (negative, unsigned)) :
    s = unsigned ∨ ∃ c, (c = '-' ∨ c = '+') ∧ s = c :: unsigned := by
  unfold takeSign at h
  split at h <;> obtain ⟨-, rfl⟩ := Prod.mk.inj h
  · exact .inr ⟨'-', .inl rfl, rfl⟩
  · exact .inr ⟨'+', .inr rfl, rfl⟩
  · exact .inl rfl

/-- A point with digits behind it, or nothing. -/
theorem eq_of_takeFraction {isDigit : Char → Bool} {s fraction rest : List Char}
    (h : takeFraction isDigit s = (fraction, rest)) :
    (∀ c ∈ fraction, isDigit c = true) ∧
      (fraction = [] ∧ s = rest ∨ s = '.' :: (fraction ++ rest)) := by
  unfold takeFraction at h
  split at h
  · obtain ⟨rfl, rfl⟩ := Prod.mk.inj h
    exact ⟨of_mem_takeWhile _ _, .inr (by rw [List.takeWhile_append_dropWhile])⟩
  · obtain ⟨rfl, rfl⟩ := Prod.mk.inj h
    exact ⟨nofun, .inl ⟨rfl, rfl⟩⟩

/-- What may follow the digits and the point: nothing, or an exponent. -/
theorem isBareChar_of_exponent {isDigit : Char → Bool} {mark : Char} {r : List Char}
    (hdigit : ∀ c, isDigit c = true → isBareChar c = true)
    (h : (isExponentMark mark && !(takeSign r).2.isEmpty && (takeSign r).2.all isDigit) = true) :
    ∀ c ∈ mark :: r, isBareChar c = true := by
  simp only [Bool.and_eq_true, isExponentMark, Bool.or_eq_true, beq_iff_eq] at h
  obtain ⟨⟨hmark, -⟩, hall⟩ := h
  have hexponent : ∀ c ∈ (takeSign r).2, isBareChar c = true := fun c hc =>
    hdigit c (List.all_eq_true.1 hall c hc)
  intro c hc
  obtain rfl | hc := List.mem_cons.1 hc
  · obtain rfl | rfl := hmark <;> decide +kernel
  · obtain hr | ⟨x, hx, hr⟩ := eq_of_takeSign (s := r) rfl
    · exact hexponent c (hr ▸ hc)
    · rw [hr] at hc
      obtain rfl | hc := List.mem_cons.1 hc
      · obtain rfl | rfl := hx <;> decide +kernel
      · exact hexponent c hc

theorem isNumberText_of_isDecimal {s : List Char} (h : isDecimal s = true) : IsNumberText s := by
  unfold isDecimal readNumeral? at h
  generalize hsign : takeSign s = signed at h
  obtain ⟨negative, unsigned⟩ := signed
  dsimp only [takeDigits] at h
  have hwhole := of_mem_takeWhile Text.isDecimalDigit unsigned
  have hsplit := List.takeWhile_append_dropWhile (p := Text.isDecimalDigit) (l := unsigned)
  generalize unsigned.takeWhile Text.isDecimalDigit = whole at h hwhole hsplit
  generalize unsigned.dropWhile Text.isDecimalDigit = afterWhole at h hsplit
  generalize hpoint : takeFraction Text.isDecimalDigit afterWhole = pointed at h
  obtain ⟨fraction, rest⟩ := pointed
  obtain ⟨hfraction, hafter⟩ := eq_of_takeFraction hpoint
  dsimp only at h
  have hdigit := fun c => @isBareChar_of_isDecimalDigit c
  have hne : whole ≠ [] ∨ fraction ≠ [] := by
    cases whole <;> cases fraction <;> simp at h ⊢
  have hrest : ∀ c ∈ rest, isBareChar c = true := by
    split at h
    · simp at h
    · split at h
      · simp
      · split at h
        · rename_i hexponent
          exact isBareChar_of_exponent hdigit hexponent
        · simp at h
  have hbare : ∀ c ∈ afterWhole, isBareChar c = true := by
    intro c hc
    obtain ⟨-, rfl⟩ | rfl := hafter
    · exact hrest c hc
    · obtain rfl | hc := List.mem_cons.1 hc
      · decide
      · exact (List.mem_append.1 hc).elim (fun hc => hdigit c (hfraction c hc)) (hrest c)
  -- Without digits before the point there are some behind it, so that there is a point.
  have hunsigned : IsNumberText unsigned := by
    rw [← hsplit]
    cases whole with
    | nil =>
      obtain ⟨rfl, -⟩ | rfl := hafter
      · simp at hne
      · exact .cons (by decide) fun x hx => hbare x (List.mem_cons_of_mem _ hx)
    | cons c w =>
      refine .cons (by simp [beginsNumber, hwhole c List.mem_cons_self]) fun x hx => ?_
      exact (List.mem_append.1 hx).elim
        (fun hx => hdigit x (hwhole x (List.mem_cons_of_mem _ hx))) (hbare x)
  obtain rfl | ⟨c, hc, rfl⟩ := eq_of_takeSign hsign
  · exact hunsigned
  · exact hunsigned.signed hc

end FilterQuery.Number
