/-
What lower case does to ASCII.

The lower-case form of a text has no capital of ASCII. It may have a letter of ASCII where the text
has a capital from beyond, but only two capitals are of that kind: the Kelvin sign and the dotted
capital I. So a text that begins with neither, nor with a letter or an underscore, has a lower-case
form that does not begin like a name either.

Names are in ASCII throughout. There lower case goes letter by letter, and whether a text is a name
does not depend on the case of its letters. Neither does the lower-case form of any text, since what
is beyond ASCII is looked up in it without regard to the case of what stands around it.
-/
import FilterQuery.Proofs.Query.Words
import FilterQuery.Text.Lowercase

set_option autoImplicit false

namespace FilterQuery.Text

/-! ## Single characters -/

/-- Beyond ASCII there are no capitals of ASCII. -/
theorem toLower_of_not_ascii {c : Char} (h : 0x80 ≤ c.toNat) : c.toLower = c := by
  unfold Char.toLower
  split
  · rename_i hupper
    have hval : c.toNat = c.val.toNat := rfl
    have hZ : 'Z'.val.toNat = 90 := rfl
    have := UInt32.le_iff_toNat_le.1 hupper.2
    omega
  · rfl

/-- A small letter is its own small letter. -/
theorem toLower_toLower (c : Char) : c.toLower.toLower = c.toLower := by
  by_cases h : c.toNat < 0x80
  · exact eq_of_beq <|
      forall_ascii (p := fun c => c.toLower.toLower == c.toLower) (by decide +kernel) h
  · rw [toLower_of_not_ascii (Nat.le_of_not_lt h), toLower_of_not_ascii (Nat.le_of_not_lt h)]

/-- All runs of capitals have their small letters beyond ASCII, except for the Kelvin sign. -/
theorem le_of_mem_capitalsBeyondAscii : ∀ r ∈ capitalsBeyondAscii,
    0x80 ≤ (r.first : Int) + r.distance ∨ r.first = 0x212A ∧ r.last = 0x212A := by
  decide +kernel

/-- A character from beyond ASCII has its small letter there, or none at all. -/
theorem lowerChar_of_not_ascii {c : Char} (h : 0x80 ≤ c.toNat) (hk : c ≠ '\u212A') :
    lowerChar c = '\x00' ∨ 0x80 ≤ (lowerChar c).toNat := by
  unfold lowerChar
  rw [if_neg (Nat.not_lt.2 h)]
  split
  · rename_i r hr
    have hholds := List.find?_some hr
    simp only [CapitalRun.holds, Bool.and_eq_true, decide_eq_true_eq] at hholds
    have hne : ¬ (r.first = 0x212A ∧ r.last = 0x212A) := by
      rintro ⟨hfirst, hlast⟩
      have : c.toNat = 0x212A := by omega
      exact hk (Char.toNat_inj.1 this)
    have hle := (le_of_mem_capitalsBeyondAscii r (List.mem_of_find?_eq_some hr)).resolve_right hne
    unfold Char.ofNat
    by_cases hvalid : ((c.toNat : Int) + r.distance).toNat.isValidChar
    · rw [dif_pos hvalid]
      refine .inr (?_ : 0x80 ≤ ((c.toNat : Int) + r.distance).toNat)
      omega
    · rw [dif_neg hvalid]
      exact .inl rfl
  · exact .inr h

/-- Every character becomes at least one. -/
theorem lowerInContext_ne_nil (before : List Char) (c : Char) (after : List Char) :
    lowerInContext before c after ≠ [] := by
  unfold lowerInContext
  split
  · simp
  · split
    · split <;> simp
    · simp

/-- No character becomes a capital of ASCII. -/
theorem toLower_of_mem_lowerInContext {before after : List Char} {c x : Char}
    (hx : x ∈ lowerInContext before c after) : x.toLower = x := by
  unfold lowerInContext at hx
  split at hx
  · obtain rfl | rfl : x = 'i' ∨ x = '\u0307' := by simpa using hx
    all_goals decide
  · split at hx
    · obtain rfl | rfl : x = '\u03C2' ∨ x = '\u03C3' := by split at hx <;> simp_all
      all_goals decide
    · obtain rfl := List.mem_singleton.1 hx
      by_cases hascii : c.toNat < 0x80
      · rw [lowerChar, if_pos hascii, toLower_toLower]
      · by_cases hk : c = '\u212A'
        · subst hk
          decide +kernel
        · obtain h | h := lowerChar_of_not_ascii (Nat.le_of_not_lt hascii) hk
          · rw [h]
            decide
          · exact toLower_of_not_ascii h

/-- Only a letter or an underscore becomes one, except for two capitals from beyond ASCII. -/
theorem isNameStart_of_mem_lowerInContext {before after : List Char} {c x : Char}
    (hx : x ∈ lowerInContext before c after) (hc : isNameStart c = false) (hk : c ≠ '\u212A')
    (hi : c ≠ '\u0130') : isNameStart x = false := by
  have hbeyond : ∀ x : Char, 0x80 ≤ x.toNat → isNameStart x = false := fun x hx =>
    Bool.eq_false_iff.2 fun hs =>
      absurd (toNat_lt_of_isNameChar (isNameChar_of_isNameStart hs)) (Nat.not_lt.2 hx)
  unfold lowerInContext at hx
  rw [if_neg hi] at hx
  split at hx
  · obtain rfl | rfl : x = '\u03C2' ∨ x = '\u03C3' := by split at hx <;> simp_all
    all_goals decide
  · obtain rfl := List.mem_singleton.1 hx
    by_cases hascii : c.toNat < 0x80
    · rw [lowerChar, if_pos hascii]
      have hall := forall_ascii (p := fun c => isNameStart c || !isNameStart c.toLower)
        (by decide +kernel) hascii
      simpa [hc] using hall
    · obtain h | h := lowerChar_of_not_ascii (Nat.le_of_not_lt hascii) hk
      · rw [h]
        decide
      · exact hbeyond _ h

/-! ## Whole texts -/

/-- What has been written is in front of what is still to be lowered. -/
theorem lowerFrom_eq_append (written before s : List Char) :
    lowerFrom written before s = written.reverse ++ lowerFrom [] before s := by
  induction s generalizing written before with
  | nil => simp [lowerFrom]
  | cons c s ih =>
    rw [lowerFrom, lowerFrom, ih, ih ((lowerInContext before c s).reverse ++ [])]
    simp

theorem lowerFrom_cons (before : List Char) (c : Char) (s : List Char) :
    lowerFrom [] before (c :: s) = lowerInContext before c s ++ lowerFrom [] (c :: before) s := by
  rw [lowerFrom, lowerFrom_eq_append]
  simp

/-- Whatever stands before it, a character of ASCII at the end of a text stays there. -/
theorem exists_lowerFrom_concat (before s : List Char) {c : Char} (hc : c.toNat < 0x80) :
    ∃ lowered, lowerFrom [] before (s ++ [c]) = lowered ++ [c.toLower] := by
  induction s generalizing before with
  | nil =>
    refine ⟨[], ?_⟩
    rw [List.nil_append, lowerFrom_cons, lowerInContext_of_ascii hc]
    rfl
  | cons x s ih =>
    obtain ⟨lowered, hlowered⟩ := ih (x :: before)
    refine ⟨lowerInContext before x (s ++ [c]) ++ lowered, ?_⟩
    rw [List.cons_append, lowerFrom_cons, hlowered, List.append_assoc]

/-- **The lower-case form of a text has no capital of ASCII.** -/
theorem toLower_of_mem_lowercase {s : String} {x : Char} (hx : x ∈ (lowercase s).toList) :
    x.toLower = x := by
  have hfrom : ∀ (t before : List Char), ∀ x ∈ lowerFrom [] before t, x.toLower = x := by
    intro t
    induction t with
    | nil => simp [lowerFrom]
    | cons c t ih =>
      intro before x hx
      rw [lowerFrom_cons] at hx
      exact (List.mem_append.1 hx).elim toLower_of_mem_lowerInContext (ih _ x)
  rw [lowercase, String.toList_ofList] at hx
  exact hfrom _ _ x hx

/-- So its small letters are the text itself. -/
theorem IsLowered.map_toLower {s : String} (h : IsLowered s) :
    s.toList.map Char.toLower = s.toList := by
  obtain ⟨typed, rfl⟩ := h
  have hsmall : ∀ x ∈ (lowercase typed).toList, x.toLower = id x :=
    fun x hx => toLower_of_mem_lowercase hx
  rw [List.map_congr_left hsmall, List.map_id]

/-- **A text that does not begin like a name does not do so in lower case**, unless it begins with
one of two capitals from beyond ASCII. -/
theorem isNameStart_of_head?_lowercase {s : String} {c : Char} {r : List Char}
    (hs : s.toList = c :: r) (hc : isNameStart c = false) (hk : c ≠ '\u212A') (hi : c ≠ '\u0130') :
    ∀ x ∈ (lowercase s).toList.head?, isNameStart x = false := by
  intro x hx
  rw [lowercase, String.toList_ofList, hs, lowerFrom_cons] at hx
  cases hlower : lowerInContext [] c r with
  | nil => exact absurd hlower (lowerInContext_ne_nil _ _ _)
  | cons y ys =>
    rw [hlower] at hx
    obtain rfl : y = x := by simpa using hx
    exact isNameStart_of_mem_lowerInContext (hlower ▸ List.mem_cons_self) hc hk hi

/-! ## Names in any mixture of cases -/

/-- Do the texts differ in the case of letters of ASCII only? -/
def EqIgnoringCase (s t : String) : Prop :=
  s.toList.map Char.toLower = t.toList.map Char.toLower

instance (s t : String) : Decidable (EqIgnoringCase s t) :=
  inferInstanceAs (Decidable (_ = _))

/-- What does not tell capitals from small letters in ASCII does not do so anywhere. -/
theorem apply_toLower {p : Char → Bool}
    (hp : ∀ n < 0x80, (p (Char.ofNat n).toLower == p (Char.ofNat n)) = true) (c : Char) :
    p c.toLower = p c := by
  by_cases h : c.toNat < 0x80
  · exact eq_of_beq (forall_ascii (p := fun c => p c.toLower == p c) hp h)
  · -- Beyond ASCII there is nothing to lower.
    rw [toLower_of_not_ascii (Nat.le_of_not_lt h)]

/-- A small letter may stand in a name wherever the capital may. -/
theorem isNameChar_toLower (c : Char) : isNameChar c.toLower = isNameChar c :=
  apply_toLower (by decide +kernel) c

theorem isNameStart_toLower (c : Char) : isNameStart c.toLower = isNameStart c :=
  apply_toLower (by decide +kernel) c

/-- A text spells a word if its small letters do. -/
theorem spells_map_toLower (word : String) (s : List Char) :
    spells word (s.map Char.toLower) = spells word s := by
  have htwice : Char.toLower ∘ Char.toLower = Char.toLower := funext toLower_toLower
  rw [spells, spells, List.map_map, htwice]

/-- Small letters can be typed as a name if the text can. -/
theorem isNameText_map_toLower (s : List Char) :
    isNameText (s.map Char.toLower) = isNameText s := by
  cases s with
  | nil => rfl
  | cons c s =>
    have hrest : (s.map Char.toLower).all isNameChar = s.all isNameChar := by
      rw [List.all_map]
      congr 1
      exact funext isNameChar_toLower
    have hword : reservedWord? ((c :: s).map Char.toLower) = reservedWord? (c :: s) := by
      unfold reservedWord?
      congr 1
      exact funext fun word => spells_map_toLower word (c :: s)
    rw [List.map_cons, isNameText, isNameText, isNameStart_toLower, hrest, ← List.map_cons, hword]

/-- **Whether a text is a name does not depend on its case.** -/
theorem EqIgnoringCase.isName_eq {s t : String} (h : EqIgnoringCase s t) : isName s = isName t := by
  have hsmall : s.toList.map Char.toLower = t.toList.map Char.toLower := h
  rw [isName, isName, ← isNameText_map_toLower, hsmall, isNameText_map_toLower]

/-- A name is lowered letter by letter. -/
theorem lowercase_of_isName {s : String} (hs : isName s = true) :
    lowercase s = String.ofList (s.toList.map Char.toLower) := by
  obtain ⟨c, r, htext, hc, hr, -⟩ := isName_iff.1 hs
  have hascii : ∀ x ∈ s.toList, x.toNat < 0x80 := by
    rw [htext, List.forall_mem_cons]
    exact ⟨toNat_lt_of_isNameChar (isNameChar_of_isNameStart hc),
      fun x hx => toNat_lt_of_isNameChar (hr x hx)⟩
  rw [lowercase, lowerFrom_of_ascii hascii, List.reverse_nil, List.nil_append]

/-! ## Texts in any mixture of cases -/

theorem isCaseIgnorable_toLower (c : Char) : isCaseIgnorable c.toLower = isCaseIgnorable c :=
  apply_toLower (by decide +kernel) c

theorem isCased_toLower (c : Char) : isCased c.toLower = isCased c :=
  apply_toLower (by decide +kernel) c

theorem reachesCased_cons (c : Char) (s : List Char) :
    reachesCased (c :: s) = if isCaseIgnorable c then reachesCased s else isCased c := by
  unfold reachesCased
  rw [List.dropWhile_cons]
  cases isCaseIgnorable c <;> rfl

/-- Where a word ends does not depend on the case of its letters. -/
theorem reachesCased_map_toLower (s : List Char) :
    reachesCased (s.map Char.toLower) = reachesCased s := by
  induction s with
  | nil => rfl
  | cons c s ih =>
    rw [List.map_cons, reachesCased_cons, reachesCased_cons, isCaseIgnorable_toLower,
      isCased_toLower, ih]

/-- The small letter of a character is in ASCII only if the character is. -/
theorem toNat_toLower_lt_iff (c : Char) : c.toLower.toNat < 0x80 ↔ c.toNat < 0x80 := by
  by_cases h : c.toNat < 0x80
  · have hsmall := forall_ascii (p := fun c => c.toLower.toNat < 0x80) (by decide +kernel) h
    exact ⟨fun _ => h, fun _ => of_decide_eq_true hsmall⟩
  · rw [toLower_of_not_ascii (Nat.le_of_not_lt h)]

/-- What a character becomes depends neither on its case in ASCII nor on that of the text around
it. -/
theorem lowerInContext_congr {before before' after after' : List Char} {c c' : Char}
    (hbefore : before.map Char.toLower = before'.map Char.toLower) (hc : c.toLower = c'.toLower)
    (hafter : after.map Char.toLower = after'.map Char.toLower) :
    lowerInContext before c after = lowerInContext before' c' after' := by
  have hiff : c.toNat < 0x80 ↔ c'.toNat < 0x80 := by
    rw [← toNat_toLower_lt_iff, hc, toNat_toLower_lt_iff]
  by_cases h : c.toNat < 0x80
  · rw [lowerInContext_of_ascii h, lowerInContext_of_ascii (hiff.1 h), hc]
  · -- Beyond ASCII the characters are the same, and only a sigma looks around.
    have hsame : c = c' := by
      rw [← toLower_of_not_ascii (Nat.le_of_not_lt h), hc,
        toLower_of_not_ascii (Nat.le_of_not_lt fun h' => h (hiff.2 h'))]
    have hreaches : reachesCased before = reachesCased before' := by
      rw [← reachesCased_map_toLower, hbefore, reachesCased_map_toLower]
    have hreaches' : reachesCased after = reachesCased after' := by
      rw [← reachesCased_map_toLower, hafter, reachesCased_map_toLower]
    unfold lowerInContext
    rw [hsame, hreaches, hreaches']

theorem lowerFrom_congr {before before' s t : List Char}
    (hbefore : before.map Char.toLower = before'.map Char.toLower)
    (h : s.map Char.toLower = t.map Char.toLower) :
    lowerFrom [] before s = lowerFrom [] before' t := by
  induction s generalizing before before' t with
  | nil =>
    obtain rfl : t = [] := List.map_eq_nil_iff.1 h.symm
    rfl
  | cons c s ih =>
    cases t with
    | nil => cases h
    | cons c' t =>
      obtain ⟨hc, hst⟩ := List.cons.inj h
      -- What has been read goes on to differ in case only.
      have hread : (c :: before).map Char.toLower = (c' :: before').map Char.toLower := by
        rw [List.map_cons, List.map_cons, hc, hbefore]
      rw [lowerFrom_cons, lowerFrom_cons, lowerInContext_congr hbefore hc hst, ih hread hst]

/-- **A text has the same lower-case form in every mixture of cases**, whatever else is in it besides
letters of ASCII. -/
theorem EqIgnoringCase.lowercase_eq {s t : String} (h : EqIgnoringCase s t) :
    lowercase s = lowercase t :=
  congrArg String.ofList (lowerFrom_congr rfl h)

/-! ## Texts that are lowered letter by letter -/

/-- Are all characters lowered without regard to what stands around them? The dotted capital I and
the capital sigma are not. -/
def LowersEach (s : List Char) : Prop :=
  ∀ c ∈ s, c ≠ '\u0130' ∧ c ≠ '\u03A3'

theorem lowerFrom_of_lowersEach {s : List Char} (h : LowersEach s) (before : List Char) :
    lowerFrom [] before s = s.map lowerChar := by
  induction s generalizing before with
  | nil => rfl
  | cons c s ih =>
    obtain ⟨⟨hi, hsigma⟩, hrest⟩ := List.forall_mem_cons.1 h
    have hc : lowerInContext before c s = [lowerChar c] := by
      rw [lowerInContext, if_neg hi, if_neg hsigma]
    rw [lowerFrom_cons, hc, ih hrest, List.map_cons, List.singleton_append]

/-- A text without capitals is its own lower-case form, whatever stands around it. -/
theorem lowersEach_of_small {s : List Char}
    (h : ∀ c ∈ s, lowerChar c = c ∧ c ≠ '\u0130' ∧ c ≠ '\u03A3') :
    LowersEach s ∧ s.map lowerChar = s :=
  ⟨fun c hc => (h c hc).2, (List.map_congr_left fun c hc => (h c hc).1).trans (List.map_id' s)⟩

/-- A text of which the lower-case form is in ASCII has no character of the other kind. -/
theorem lowersEach_of_lowerFrom {s before : List Char}
    (h : ∀ x ∈ lowerFrom [] before s, x.toNat < 0x80) : LowersEach s := by
  induction s generalizing before with
  | nil => exact nofun
  | cons c s ih =>
    rw [lowerFrom_cons] at h
    obtain ⟨hc, hrest⟩ := List.forall_mem_append.1 h
    refine List.forall_mem_cons.2 ⟨⟨?_, ?_⟩, ih hrest⟩
    · -- The combining dot is beyond ASCII.
      rintro rfl
      exact absurd (hc '\u0307' (by simp [lowerInContext])) (by decide)
    · -- So are both forms of the small sigma.
      rintro rfl
      rw [lowerInContext, if_neg (by decide), if_pos rfl] at hc
      split at hc
      · exact absurd (hc _ List.mem_cons_self) (by decide)
      · exact absurd (hc _ List.mem_cons_self) (by decide)

/-- A blank is its own lower-case form. -/
theorem lowerChar_of_isBlank {c : Char} (h : isBlank c = true) :
    lowerChar c = c ∧ c ≠ '\u0130' ∧ c ≠ '\u03A3' := by
  have hall : ∀ n ∈ blankCodePoints, lowerChar (Char.ofNat n) = Char.ofNat n ∧
      Char.ofNat n ≠ '\u0130' ∧ Char.ofNat n ≠ '\u03A3' := by decide +kernel
  have hc := hall c.toNat (isBlank_iff_mem.1 h)
  rwa [Char.ofNat_toNat] at hc

end FilterQuery.Text
