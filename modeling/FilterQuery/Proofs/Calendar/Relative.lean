/-
Relative dates as they are typed.

A relative date is a number, a unit and perhaps `ago`, with blanks between the parts and around
them. It is read from its end, by endings that are looked for one after the other, and several
spellings of units end in others. So what has to be seen first is that the search finds the unit
that was typed: no number has a letter in it, which leaves the end of the unit to decide, and for
every spelling the first ending that is found is the whole of it. Blanks and the case of letters
come to nothing along the way. What is read is then the count, and the last section says what
becomes of that: within the limit of the unit a date or no date, beyond it a refusal, and no
overflow for any integer of 64 bits.
-/
import FilterQuery.Proofs.Calendar.Widths
import FilterQuery.Proofs.Number.Padded
import FilterQuery.Proofs.Text.Lowercase
import FilterQuery.Proofs.Text.Parts

set_option autoImplicit false

namespace FilterQuery.Calendar

open Number (SpellsInteger)
open Text (isBlank lowerChar LowersEach)

/-! ## Endings -/

variable {ending front s r : List Char}

/-- What is left without an ending is what stands before it. -/
theorem dropEnding?_eq_some_iff : dropEnding? ending s = some r ↔ s = r ++ ending := by
  unfold dropEnding?
  split
  · rename_i h
    have hs := List.take_append_drop (s.length - ending.length) s
    rw [eq_of_beq h] at hs
    constructor
    · intro hr
      rw [← Option.some.inj hr, hs]
    · rintro rfl
      simp
  · rename_i h
    simp only [reduceCtorEq, false_iff]
    rintro rfl
    exact h (by simp)

/-- An ending of letters is not looked for in a number: only what follows it matters. -/
theorem dropEnding?_append (hending : ending.all isNameStart = true)
    (hfront : ∀ c ∈ front, isNameStart c = false) (s : List Char) :
    dropEnding? ending (front ++ s) = (dropEnding? ending s).map (front ++ ·) := by
  ext r
  simp only [Option.map_eq_some_iff, dropEnding?_eq_some_iff]
  constructor
  · intro h
    obtain ⟨t, rfl, hs⟩ | ⟨t, rfl, ht⟩ := List.append_eq_append_iff.1 h
    · exact ⟨t, hs, rfl⟩
    · -- What both the ending and the number have a part in is empty.
      cases t with
      | nil => exact ⟨[], ht.symm, by simp⟩
      | cons c t =>
        have hletter := List.all_eq_true.1 hending c (ht ▸ List.mem_cons_self)
        rw [hfront c (List.mem_append_right r List.mem_cons_self)] at hletter
        exact absurd hletter (by decide)
  · rintro ⟨t, rfl, rfl⟩
    exact (List.append_assoc front t ending).symm

/-! ## Spellings -/

/-- **Each spelling is found whole, and for its own unit**, although some end in others. -/
theorem takeUnit?_spelling : ∀ p ∈ DateUnit.spellings, takeUnit? p.1.toList = some ([], p.2) := by
  decide +kernel

/-- Units are spelled with letters. -/
theorem spelling_letters : ∀ p ∈ DateUnit.spellings,
    p.1.toList ≠ [] ∧ p.1.toList.all Char.isAlpha = true := by
  decide +kernel

/-- No spelling ends in `ago`, or in an underscore that might stand before it. -/
theorem spelling_ends : ∀ p ∈ DateUnit.spellings,
    dropEnding? "ago".toList p.1.toList = none ∧ dropEnding? ['_'] p.1.toList = none := by
  decide +kernel

theorem isNameStart_of_isAlpha {c : Char} (h : c.isAlpha = true) : isNameStart c = true := by
  rw [isNameStart, h, Bool.true_or]

/-- **A number in front of a unit stays out of the search for it.** -/
theorem takeUnit?_append (hfront : ∀ c ∈ front, isNameStart c = false) (s : List Char) :
    takeUnit? (front ++ s) = (takeUnit? s).map (Prod.map (front ++ ·) id) := by
  unfold takeUnit?
  rw [List.map_findSome?]
  refine findSome?_congr fun (spelling, unit) hp => ?_
  have hletters : spelling.toList.all isNameStart = true := List.all_eq_true.2 fun c hc =>
    isNameStart_of_isAlpha (List.all_eq_true.1 (spelling_letters (spelling, unit) hp).2 c hc)
  dsimp only [Function.comp_apply]
  rw [dropEnding?_append hletters hfront, Option.map_map, Option.map_map]
  rfl

/-- A word that comes to letters of ASCII in lower case is lowered letter by letter, and has no
blank in it. -/
theorem lowered_word (typed : String) (hne : (Text.lowercase typed).toList ≠ [])
    (hletters : (Text.lowercase typed).toList.all Char.isAlpha = true) :
    LowersEach typed.toList ∧
      typed.toList.map lowerChar = (Text.lowercase typed).toList ∧ IsTrimmed typed.toList := by
  have hascii : ∀ c ∈ (Text.lowercase typed).toList, c.toNat < 0x80 :=
    fun c hc => toNat_lt_of_isNameChar (isNameChar_of_isAlpha (List.all_eq_true.1 hletters c hc))
  rw [Text.lowercase, String.toList_ofList] at hascii hletters hne ⊢
  have heach := Text.lowersEach_of_lowerFrom hascii
  rw [Text.lowerFrom_of_lowersEach heach] at hletters hne ⊢
  refine ⟨heach, rfl, isTrimmed_of_not_blank (fun hnil => hne (by rw [hnil, List.map_nil])) ?_⟩
  intro c hc
  refine Bool.eq_false_iff.2 fun hblank => ?_
  -- A blank would be there in lower case too.
  have hletter := List.all_eq_true.1 hletters (lowerChar c) (List.mem_map_of_mem hc)
  rw [(Text.lowerChar_of_isBlank hblank).1] at hletter
  rw [isBlank_eq_false_of_isNameChar (isNameChar_of_isAlpha hletter)] at hblank
  exact absurd hblank (by decide)

/-! ## Counts -/

/-- A number with some blanks after it. -/
inductive IsCount (n : Int) : List Char → Prop
  | intro {count blanks : List Char} (hcount : SpellsInteger count n)
      (hblanks : IsBlankText blanks) : IsCount n (count ++ blanks)

/-- A character of a number is neither a letter nor a blank, and has no other lower-case form. -/
theorem plain_of_mem_count {n : Int} {count : List Char} (h : SpellsInteger count n) {c : Char}
    (hc : c ∈ count) :
    isNameStart c = false ∧ isBlank c = false ∧ lowerChar c = c ∧ c.toNat < 0x80 := by
  obtain hdigit | rfl | rfl := h.isDigit_or_sign hc
  · have hascii : c.toNat < 0x80 :=
      toNat_lt_of_isNameChar (by simp [isNameChar, Char.isAlphanum, hdigit])
    have hplain := forall_ascii (p := fun c => !c.isDigit ||
      (!isNameStart c && (!isBlank c && lowerChar c == c))) (by decide +kernel) hascii
    simp only [hdigit, Bool.not_true, Bool.false_or, Bool.and_eq_true, Bool.not_eq_true',
      beq_iff_eq] at hplain
    exact ⟨hplain.1, hplain.2.1, hplain.2.2, hascii⟩
  · decide
  · decide

/-- So there are no blanks at its ends. -/
theorem isTrimmed_of_spellsInteger {n : Int} {count : List Char} (h : SpellsInteger count n) :
    IsTrimmed count :=
  isTrimmed_of_not_blank h.ne_nil fun _ hc => (plain_of_mem_count h hc).2.1

namespace IsCount

variable {n : Int}

/-- There is no letter in it, and no underscore. -/
theorem not_nameStart (h : IsCount n front) : ∀ c ∈ front, isNameStart c = false := by
  obtain ⟨hcount, hblanks⟩ := h
  refine List.forall_mem_append.2 ⟨fun c hc => (plain_of_mem_count hcount hc).1, fun c hc => ?_⟩
  refine Bool.eq_false_iff.2 fun hletter => ?_
  have hblank := isBlank_eq_false_of_isNameChar (isNameChar_of_isNameStart hletter)
  rw [hblanks c hc] at hblank
  exact absurd hblank (by decide)

/-- A text that begins with it does not begin with a letter. -/
theorem head?_append (h : IsCount n front) (s : List Char) :
    (front ++ s).head?.any isNameStart = false := by
  have hne : front ≠ [] := by
    obtain ⟨hcount, -⟩ := h
    exact List.append_ne_nil_of_left_ne_nil hcount.ne_nil _
  obtain ⟨c, r, rfl⟩ := List.exists_cons_of_ne_nil hne
  exact h.not_nameStart c List.mem_cons_self

/-- It is its own lower-case form, whatever stands around it. -/
theorem lowered (h : IsCount n front) : LowersEach front ∧ front.map lowerChar = front := by
  obtain ⟨hcount, hblanks⟩ := h
  refine Text.lowersEach_of_small (List.forall_mem_append.2
    ⟨fun c hc => ?_, fun c hc => Text.lowerChar_of_isBlank (hblanks c hc)⟩)
  obtain ⟨-, -, hlower, hascii⟩ := plain_of_mem_count hcount hc
  refine ⟨hlower, ?_, ?_⟩
  · rintro rfl
    exact absurd hascii (by decide)
  · rintro rfl
    exact absurd hascii (by decide)

/-- It does not begin with a blank, so that it can begin a text without blanks at its ends. -/
theorem isTrimmed_append (h : IsCount n front) (hs : IsTrimmed s) : IsTrimmed (front ++ s) := by
  obtain ⟨hcount, hblanks⟩ := h
  rw [List.append_assoc]
  exact (isTrimmed_of_spellsInteger hcount).between hs _

/-- Without the blanks it is read as its number. -/
theorem readInt? (h : IsCount n front) : Number.readInt? (Text.trimChars front) = some n := by
  obtain ⟨hcount, hblanks⟩ := h
  have htrim :=
    Text.trimChars_around (isTrimmed_of_spellsInteger hcount) isBlankText_nil hblanks
  rw [List.nil_append] at htrim
  rw [htrim]
  exact hcount.readInt?

end IsCount

/-- **The unit of a count is found, and the number is what is left.** -/
theorem takeUnit?_count {n : Int} (h : IsCount n front) {spelling : String} {unit : DateUnit}
    (hspelling : (spelling, unit) ∈ DateUnit.spellings) :
    takeUnit? (front ++ spelling.toList) = some (front, unit) := by
  rw [takeUnit?_append h.not_nameStart, takeUnit?_spelling _ hspelling]
  exact congrArg (fun count => some (count, unit)) (List.append_nil front)

/-- A text that does not begin with a letter is none of the words for single days. -/
theorem expandDayWord_of_head (hs : s.head?.any isNameStart = false) : expandDayWord s = s := by
  have hword (word : String) (hhead : word.toList.head?.any isNameStart = true) :
      (s == word.toList) = false := by
    refine beq_eq_false_iff_ne.2 ?_
    rintro rfl
    rw [hhead] at hs
    exact absurd hs (by decide)
  unfold expandDayWord
  simp only [hword "today" (by decide), hword "now" (by decide), hword "yesterday" (by decide),
    hword "tomorrow" (by decide), Bool.or_false, Bool.false_eq_true, if_false]

/-- There is no `ago` at the end of a count. -/
theorem takeAgo_count {n : Int} (h : IsCount n front) {p : String × DateUnit}
    (hp : p ∈ DateUnit.spellings) :
    takeAgo (front ++ p.1.toList) = (false, front ++ p.1.toList) := by
  have hnone : dropEnding? "ago".toList (front ++ p.1.toList) = none := by
    rw [dropEnding?_append (by decide) h.not_nameStart, (spelling_ends p hp).1]
    rfl
  rw [takeAgo, hnone]

/-- With it at the end, and blanks before it, the count is what is left. -/
theorem takeAgo_count_ago {n : Int} (h : IsCount n front) {p : String × DateUnit}
    (hp : p ∈ DateUnit.spellings) (htrimmed : IsTrimmed (front ++ p.1.toList))
    {blanks : List Char} (hblanks : IsBlankText blanks) :
    takeAgo (front ++ p.1.toList ++ (blanks ++ "ago".toList))
      = (true, front ++ p.1.toList) := by
  have hago : dropEnding? "ago".toList (front ++ p.1.toList ++ (blanks ++ "ago".toList))
      = some (front ++ p.1.toList ++ blanks) :=
    dropEnding?_eq_some_iff.2 (List.append_assoc _ _ _).symm
  have htrim := Text.trimChars_around htrimmed isBlankText_nil hblanks
  have hnone : dropEnding? ['_'] (front ++ p.1.toList) = none := by
    rw [dropEnding?_append (by decide) h.not_nameStart, (spelling_ends p hp).2]
    rfl
  rw [List.nil_append] at htrim
  rw [takeAgo, hago]
  dsimp only
  rw [htrim, hnone, Option.getD_none]

/-! ## Texts -/

/-- `unit.Counts n s`: the text is a whole number and the unit, in any of its spellings and in any
case, with any blanks between the two. -/
inductive DateUnit.Counts (unit : DateUnit) (n : Int) : List Char → Prop
  | intro {front : List Char} {typed : String} (hfront : IsCount n front)
      (htyped : (Text.lowercase typed, unit) ∈ DateUnit.spellings) :
      unit.Counts n (front ++ typed.toList)

/-- `unit.Typed n negated s`: the text counts so many units, and if the number is to be negated,
ends in `ago` in any case, with any blanks before it. -/
inductive DateUnit.Typed (unit : DateUnit) (n : Int) : Bool → List Char → Prop
  | plain {s : List Char} (hs : unit.Counts n s) : unit.Typed n false s
  | ago {s blanks : List Char} {word : String} (hs : unit.Counts n s)
      (hblanks : IsBlankText blanks) (hword : Text.lowercase word = "ago") :
      unit.Typed n true (s ++ (blanks ++ word.toList))

variable {unit : DateUnit} {n : Int} {negated : Bool}

/-- In lower case a count is the same number and the spelling that was typed. -/
theorem DateUnit.Counts.lowered (h : unit.Counts n s) : IsTrimmed s ∧ LowersEach s ∧
    ∃ front spelling, IsCount n front ∧ (spelling, unit) ∈ spellings ∧
      s.map lowerChar = front ++ spelling.toList ∧ IsTrimmed (front ++ spelling.toList) := by
  obtain @⟨front, typed, hfront, htyped⟩ := h
  obtain ⟨hne, hletters⟩ := spelling_letters _ htyped
  obtain ⟨hword, hlower, htrimmed⟩ := lowered_word typed hne hletters
  obtain ⟨heach, hself⟩ := hfront.lowered
  refine ⟨hfront.isTrimmed_append htrimmed, List.forall_mem_append.2 ⟨heach, hword⟩,
    front, _, hfront, htyped, ?_, hfront.isTrimmed_append ?_⟩
  · rw [List.map_append, hself, hlower]
  · exact isTrimmed_of_not_blank hne
      fun c hc => isBlank_eq_false_of_isNameChar
        (isNameChar_of_isAlpha (List.all_eq_true.1 hletters c hc))

/-- **What is typed comes to a number and a spelling**, with `ago` taken off. -/
theorem DateUnit.Typed.period (h : unit.Typed n negated s) : IsTrimmed s ∧ LowersEach s ∧
    ∃ front spelling, IsCount n front ∧ (spelling, unit) ∈ spellings ∧
      takeAgo (expandDayWord (s.map lowerChar)) = (negated, front ++ spelling.toList) := by
  cases h with
  | plain hs =>
    obtain ⟨htrimmed, heach, front, spelling, hfront, hspelling, hlower, -⟩ := hs.lowered
    refine ⟨htrimmed, heach, front, spelling, hfront, hspelling, ?_⟩
    rw [hlower, expandDayWord_of_head (hfront.head?_append _), takeAgo_count hfront hspelling]
  | ago hs hblanks hword =>
    rename_i s blanks word
    obtain ⟨htrimmed, heach, front, spelling, hfront, hspelling, hlower, hends⟩ := hs.lowered
    obtain ⟨hago, hagoLower, hagoTrimmed⟩ :=
      lowered_word word (by rw [hword]; decide) (by rw [hword]; decide)
    obtain ⟨hblank, hblankLower⟩ :=
      Text.lowersEach_of_small fun c hc => Text.lowerChar_of_isBlank (hblanks c hc)
    refine ⟨htrimmed.between hagoTrimmed blanks,
      List.forall_mem_append.2 ⟨heach, List.forall_mem_append.2 ⟨hblank, hago⟩⟩,
      front, spelling, hfront, hspelling, ?_⟩
    rw [List.map_append, List.map_append, hlower, hblankLower, hagoLower, hword,
      List.append_assoc, expandDayWord_of_head (hfront.head?_append _), ← List.append_assoc,
      takeAgo_count_ago hfront hspelling hends hblanks]

/-! ## Outcomes -/

/-- The unit that is recognized at the end of a text. -/
def unitOf? (text : String) : Option DateUnit :=
  (takeUnit? (takeAgo (expandDayWord (Text.lowercase (Text.trim text)).toList)).2).map (·.2)

/-- A text is no relative date, rather than one at fault, if no unit is recognized. -/
theorem readRelativeDate_eq_ok_none_iff (today : Date) (text : String) :
    readRelativeDate today text = .ok none ↔ unitOf? text = none := by
  unfold readRelativeDate unitOf?
  dsimp only
  generalize takeAgo _ = taken
  obtain ⟨negated, period⟩ := taken
  cases takeUnit? period with
  | none => simp
  | some found =>
    obtain ⟨count, unit⟩ := found
    dsimp only
    cases Number.readInt64? (Text.trimChars count) with
    | none => simp
    | some n =>
      dsimp only
      cases countFrom today unit (if negated then -n.toInt else n.toInt) <;> simp [Except.map]

/-- **A relative date is read as the count that was typed.** -/
theorem readRelativeDate_of_typed (today : Date) {n : Int64} (h : unit.Typed n.toInt negated s)
    {before after : List Char} (hbefore : IsBlankText before) (hafter : IsBlankText after) :
    unitOf? (String.ofList (before ++ (s ++ after))) = some unit ∧
      readRelativeDate today (String.ofList (before ++ (s ++ after)))
        = (countFrom today unit (if negated then -n.toInt else n.toInt)).map some := by
  obtain ⟨htrimmed, heach, front, spelling, hfront, hspelling, hperiod⟩ := h.period
  have hlowered : Text.lowercase (Text.trim (String.ofList (before ++ (s ++ after))))
      = String.ofList (s.map lowerChar) := by
    rw [Text.trim, String.toList_ofList, Text.trimChars_around htrimmed hbefore hafter,
      Text.lowercase, String.toList_ofList, Text.lowerFrom_of_lowersEach heach]
  have hunit := takeUnit?_count hfront hspelling
  have hread : Number.readInt64? (Text.trimChars front) = some n := by
    rw [Number.readInt64?, hfront.readInt?, Option.bind_some, Number.toInt64?_toInt]
  unfold readRelativeDate unitOf?
  dsimp only
  rw [hlowered, String.toList_ofList, hperiod]
  dsimp only
  rw [hunit]
  dsimp only
  rw [hread]
  exact ⟨rfl, rfl⟩

/-- A count beyond the limit is refused, and any other is answered with a date if there is one. -/
theorem countFrom_map_some (today : Date) (unit : DateUnit) (n : Int) :
    ((countFrom today unit n).map some = .error (.tooBig n unit.limit) ↔ unit.limit < n.natAbs) ∧
      (n.natAbs ≤ unit.limit → (countFrom today unit n).map some
        = (unit.shift? today n).elim (.error .outOfRange) fun d => .ok (some d)) := by
  unfold countFrom
  split
  · rename_i hlimit
    exact ⟨iff_of_true rfl hlimit, fun hle => absurd hlimit (Nat.not_lt.2 hle)⟩
  · rename_i hlimit
    cases unit.shift? today n with
    | none => exact ⟨iff_of_false (by simp [Except.map]) hlimit, fun _ => rfl⟩
    | some d => exact ⟨iff_of_false (by simp [Except.map]) hlimit, fun _ => rfl⟩

/-- **Relative dates are bounded, and `ago` negates.** Let a number of 64 bits and a unit be typed
in any way, with `ago` or without. Then that unit is recognized. The date is refused as too big
exactly if the number is beyond the limit of the unit, in either direction; otherwise it is today's
date, moved by that many units, or out of range if there is no such date. No step of the arithmetic
overflows on the way. So `ago` comes to the same as a number with the other sign, except for the
least number, which has no opposite in 64 bits. -/
theorem readRelativeDate_bounded (today : Date) {n : Int64} (h : unit.Typed n.toInt negated s)
    {before after : List Char} (hbefore : IsBlankText before) (hafter : IsBlankText after) :
    let text := String.ofList (before ++ (s ++ after))
    let signed := if negated then -n.toInt else n.toInt
    unitOf? text = some unit ∧
    (readRelativeDate today text = .error (.tooBig signed unit.limit) ↔
      unit.limit < n.toInt.natAbs) ∧
    (n.toInt.natAbs ≤ unit.limit → readRelativeDate today text
      = (unit.shift? today signed).elim (.error .outOfRange) fun d => .ok (some d)) ∧
    (∃ outcome, countKept today unit negated n = .ok outcome ∧
      readRelativeDate today text = outcome.map some) ∧
    (n ≠ Int64.minValue → ∀ t before' after', unit.Counts signed t → IsBlankText before' →
      IsBlankText after' →
        readRelativeDate today (String.ofList (before' ++ (t ++ after')))
          = readRelativeDate today text) := by
  obtain ⟨hunit, hread⟩ := readRelativeDate_of_typed today h hbefore hafter
  have hnatAbs : (if negated then -n.toInt else n.toInt).natAbs = n.toInt.natAbs := by
    cases negated
    · rfl
    · exact Int.natAbs_neg _
  obtain ⟨hlimit, hdate⟩ := countFrom_map_some today unit (if negated then -n.toInt else n.toInt)
  rw [hnatAbs] at hlimit hdate
  intro text signed
  refine ⟨hunit, ?_, ?_, ⟨_, countKept_eq today unit negated n, hread⟩, ?_⟩
  · rw [hread]
    exact hlimit
  · rw [hread]
    exact hdate
  · intro hn t before' after' ht hbefore' hafter'
    obtain ⟨m, hm⟩ : ∃ m : Int64, m.toInt = signed := by
      cases negated with
      | false => exact ⟨n, rfl⟩
      | true => exact ⟨-n, Number.toInt_neg_of_ne hn⟩
    rw [← hm] at ht
    rw [(readRelativeDate_of_typed today (.plain ht) hbefore' hafter').2, hread]
    exact congrArg (fun n => (countFrom today unit n).map some) hm

/-- The least number is refused with `ago` as without; and weeks, spelled with a Kelvin sign and far
between other blanks, are taken back as many as a minus takes them. -/
theorem readRelativeDate_bounded_extreme :
    let today : Date := ⟨2024, 1, 31, by decide, by decide, by decide, by decide⟩
    let earlier : Date := ⟨2024, 1, 10, by decide, by decide, by decide, by decide⟩
    readRelativeDate today " -9223372036854775808 Days AGO\n"
        = .error (.tooBig 9223372036854775808 9999) ∧
      countKept today .day true Int64.minValue
        = .ok (.error (.tooBig 9223372036854775808 9999)) ∧
      readRelativeDate today "3\u3000W\u212A\u00A0Ago" = .ok (some earlier) ∧
      readRelativeDate today " -003weeks" = .ok (some earlier) := by
  intro today earlier
  have hblank (c : Char) (hc : isBlank c = true) : IsBlankText [c] :=
    List.forall_mem_singleton.2 hc
  have hdays : DateUnit.day.Counts Int64.minValue.toInt
      ((Number.showInt64 Int64.minValue).toList ++ [' '] ++ "Days".toList) :=
    .intro (.intro (Number.spellsInteger_showInt64 _) (hblank ' ' rfl)) (by decide +kernel)
  have hweeks : DateUnit.week.Counts (3 : Int64).toInt
      ((Number.padded 1 3).toList ++ ['\u3000'] ++ "W\u212A".toList) :=
    .intro (.intro (.unsigned 1 3) (hblank '\u3000' rfl)) (by decide +kernel)
  have hminus : DateUnit.week.Counts (-(3 : Int64).toInt)
      ('-' :: (Number.padded 3 3).toList ++ [] ++ "weeks".toList) :=
    .intro (.intro (.minus 3 3) isBlankText_nil) (by decide +kernel)
  have hago : Text.lowercase "AGO" = "ago" ∧ Text.lowercase "Ago" = "ago" := by decide +kernel
  obtain ⟨-, hrefused, -, ⟨outcome, hkept, houtcome⟩, -⟩ := readRelativeDate_bounded today
    (.ago hdays (hblank ' ' rfl) hago.1) (hblank ' ' rfl) (hblank '\n' rfl)
  obtain ⟨-, -, hdate, -, hsame⟩ := readRelativeDate_bounded today
    (.ago hweeks (hblank '\u00A0' rfl) hago.2) isBlankText_nil isBlankText_nil
  have htooBig := hrefused.2 (by decide)
  have hshift : DateUnit.week.shift? today
      (if true = true then -(3 : Int64).toInt else (3 : Int64).toInt) = some earlier := by
    decide +kernel
  rw [hshift] at hdate
  have hearlier := hdate (by decide)
  refine ⟨htooBig, ?_, hearlier, ?_⟩
  · rw [houtcome] at htooBig
    rw [hkept, eq_error_of_map_eq_error htooBig]
    rfl
  · exact (hsame (by decide) _ _ _ hminus (hblank ' ' rfl) isBlankText_nil).trans hearlier

end FilterQuery.Calendar
