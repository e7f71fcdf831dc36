/-
Every kind of value is read back from what is written for it in a query.

A value goes a long way before a filter has it again: it is written as a literal, bare or quoted,
the query is read, and the text of the literal is given to the reader of the kind. The two ends of
that way know nothing of each other. The main statement is that they fit, for all kinds but doubles
and for every value of a kind: every value that its reader ever gives, for whatever text and at
whatever time, and also those integers, truth values, dates and times that nobody has typed.

A text that was written for a date or a time is never relative, so the clock does not matter. The
kinds that keep a text as it is typed give it trimmed, and what is trimmed stays as it is when it is
read once more; nothing else about the characters they accept is needed.
-/
import FilterQuery.Proofs.Bound.Query
import FilterQuery.Proofs.Calendar.ReadBack

set_option autoImplicit false

namespace FilterQuery

open Calendar (Date Time DateTime)

namespace Value

/-! ## Kinds -/

/-- The kinds of values that are read without rounding. -/
inductive Kind where
  | text
  | int
  | decimal
  | email
  | url
  /-- Text that an arbitrary function accepts, be it another notion of a locator. -/
  | accepted (accepts : List Char → Bool) (fault : ValueError)
  | bool
  | tristate
  | date
  | dateTime
  | time
  | choice (choices : List String)

namespace Kind

/-- Reads a text as a value of the kind, at a given time. -/
def read (now : DateTime) : Kind → String → Except ValueError Value
  | text => readText
  | int => readInt
  | decimal => readDecimal
  | email => readEmail
  | url => readUrl
  | accepted accepts fault => readAccepted accepts fault
  | bool => readBool
  | tristate => readTristate
  | date => readDate now.date
  | dateTime => readDateTime now
  | time => readTime now.time
  | choice choices => readChoice choices

/-- The values of a kind: whatever its reader gives, and every integer, truth value, date and time
whether or not there is a text that it is read from. -/
inductive HasValue : Kind → Value → Prop
  | read {k : Kind} {now : DateTime} {s : String} {v : Value} (h : k.read now s = .ok v) :
      HasValue k v
  | int (n : Int64) : HasValue .int (.int n)
  | bool (b : Bool) : HasValue .bool (.bool b)
  | tristate (b : Bool) : HasValue .tristate (.bool b)
  | date (d : Date) : HasValue .date (.date d)
  | dateTime (dt : DateTime) : HasValue .dateTime (.dateTime dt)
  | time (t : Time) : HasValue .time (.time t)

end Kind

/-! ## Texts that are kept

An address, a locator and a decimal are kept as they are typed, but trimmed. -/

theorem trimChars_trim (s : String) :
    Text.trimChars (Text.trim s).toList = Text.trimChars s.toList := by
  rw [Text.trim, String.toList_ofList, Text.trimChars_trimChars]

theorem trim_trim (s : String) : Text.trim (Text.trim s) = Text.trim s := by
  rw [Text.trim, trimChars_trim, Text.trim]

/-- **What was accepted is accepted again**, whatever it is that is accepted. -/
theorem readAccepted_again {accepts : List Char → Bool} {fault : ValueError} {s : String}
    {v : Value} (h : readAccepted accepts fault s = .ok v) :
    ∃ t, v = text t ∧ readAccepted accepts fault t = .ok (text t) := by
  obtain ⟨haccepts, rfl⟩ := readAccepted_eq_ok_iff.1 h
  refine ⟨Text.trim s, rfl, readAccepted_eq_ok_iff.2 ⟨?_, ?_⟩⟩
  · rwa [trimChars_trim]
  · rw [trim_trim]

theorem readDecimal_again {s : String} {v : Value} (h : readDecimal s = .ok v) :
    ∃ t, v = decimal t ∧ readDecimal t = .ok (decimal t) := by
  unfold readDecimal at h
  split at h
  · rename_i hdecimal
    refine ⟨Text.trim s, (Except.ok.inj h).symm, ?_⟩
    rw [readDecimal, trimChars_trim, if_pos hdecimal, trim_trim]
  · simp at h

/-! ## What a reader gives -/

variable {s : String} {v : Value}

theorem exists_of_readInt (h : readInt s = .ok v) : ∃ n, v = int n := by
  unfold readInt at h
  split at h
  · exact ⟨_, (Except.ok.inj h).symm⟩
  · simp at h

theorem exists_of_readBool (h : readBool s = .ok v) : ∃ b, v = bool b := by
  unfold readBool at h
  dsimp only at h
  split at h
  · exact ⟨true, (Except.ok.inj h).symm⟩
  · split at h
    · exact ⟨false, (Except.ok.inj h).symm⟩
    · simp at h

/-- Blank text is unknown, and everything else is a truth value. -/
theorem exists_of_readTristate (h : readTristate s = .ok v) : v = text "" ∨ ∃ b, v = bool b := by
  unfold readTristate at h
  split at h
  · exact .inl (Except.ok.inj h).symm
  · exact .inr (exists_of_readBool h)

theorem exists_of_readDate {today : Date} (h : readDate today s = .ok v) : ∃ d, v = date d := by
  unfold readDate at h
  dsimp only at h
  split at h
  · exact ⟨_, (Except.ok.inj h).symm⟩
  · obtain ⟨d, -, hd⟩ := exists_of_map_eq_ok h
    exact ⟨d, hd.symm⟩

theorem exists_of_readDateTime {now : DateTime} (h : readDateTime now s = .ok v) :
    ∃ dt, v = dateTime dt := by
  unfold readDateTime at h
  dsimp only at h
  split at h
  · exact ⟨_, (Except.ok.inj h).symm⟩
  · obtain ⟨d, -, hd⟩ := exists_of_map_eq_ok h
    exact ⟨_, hd.symm⟩

theorem exists_of_readTime {now : Time} (h : readTime now s = .ok v) : ∃ t, v = time t := by
  unfold readTime at h
  dsimp only at h
  split at h
  · exact ⟨now, (Except.ok.inj h).symm⟩
  · split at h
    · exact ⟨_, (Except.ok.inj h).symm⟩
    · simp at h

/-! ## What a reader makes of what is written -/

theorem readInt_literal (n : Int64) : readInt (Number.showInt64 n) = .ok (int n) := by
  have htext := Number.isNumberText_showInt64 n
  have htrimmed := isTrimmed_of_isBareChar htext.wellFormed.1 htext.bare
  rw [readInt, htrimmed.trimChars, Number.readInt64?_showInt64]

theorem readBool_literal (b : Bool) : readBool (if b then "1" else "0") = .ok (bool b) := by
  cases b <;> rfl

theorem readTristate_literal (b : Bool) : readTristate (if b then "1" else "0") = .ok (bool b) := by
  have hnonblank : (Text.trimChars (if b then "1" else "0").toList).isEmpty = false := by
    cases b <;> decide
  rw [readTristate, hnonblank, if_neg (by decide), readBool_literal]

theorem readDate_literal (today d : Date) : readDate today d.literal = .ok (date d) := by
  rw [readDate, d.isTrimmed_literal.trimChars]
  simp only [d.readDate?_literal]

theorem readDateTime_literal (now dt : DateTime) :
    readDateTime now dt.literal = .ok (dateTime dt) := by
  rw [readDateTime, dt.isTrimmed_literal.trimChars]
  simp only [dt.readDateTime?_literal]

/-- A clock is never the word for the present time: it has colons. -/
theorem readTime_clock (now t : Time) : readTime now t.clock = .ok (time t) := by
  have hnow : spells "now" t.clock.toList = false := by
    refine Bool.eq_false_iff.2 fun h => ?_
    have hcolon : ':' ∈ t.clock.toList := by
      rw [t.toList_clock]
      simp [Time.clockChars]
    exact absurd (isAlpha_of_spells h (by decide) ':' hcolon) (by decide)
  rw [readTime, t.isTrimmed_clock.trimChars]
  simp only [hnow, t.readClock?_clock, Bool.false_eq_true, if_false]

/-! ## All kinds -/

/-- The value has a literal that can be typed, and the text of the literal is read as that value, at
any time. -/
structure Kind.ReadsBack (k : Kind) (v : Value) : Prop where
  typable : v.Typable
  read : ∀ now, k.read now v.asLiteral.text = .ok v

/-- Every value of a kind is read back. -/
theorem Kind.HasValue.readsBack {k : Kind} (h : k.HasValue v) : k.ReadsBack v := by
  cases h with
  | int n => exact ⟨trivial, fun _ => readInt_literal n⟩
  | bool b => exact ⟨trivial, fun _ => readBool_literal b⟩
  | tristate b => exact ⟨trivial, fun _ => readTristate_literal b⟩
  | date d => exact ⟨trivial, fun now => readDate_literal now.date d⟩
  | dateTime dt => exact ⟨trivial, fun now => readDateTime_literal now dt⟩
  | time t => exact ⟨trivial, fun now => readTime_clock now.time t⟩
  | read h =>
    cases k with
    | text =>
      cases h
      exact ⟨trivial, fun _ => rfl⟩
    | int =>
      rw [Kind.read] at h
      obtain ⟨n, rfl⟩ := exists_of_readInt h
      exact ⟨trivial, fun _ => readInt_literal n⟩
    | decimal =>
      rw [Kind.read] at h
      obtain ⟨t, rfl, ht⟩ := readDecimal_again h
      exact ⟨⟨t, ht⟩, fun _ => ht⟩
    | email =>
      rw [Kind.read, readEmail] at h
      obtain ⟨t, rfl, ht⟩ := readAccepted_again h
      exact ⟨trivial, fun _ => ht⟩
    | url =>
      rw [Kind.read, readUrl] at h
      obtain ⟨t, rfl, ht⟩ := readAccepted_again h
      exact ⟨trivial, fun _ => ht⟩
    | accepted accepts fault =>
      rw [Kind.read] at h
      obtain ⟨t, rfl, ht⟩ := readAccepted_again h
      exact ⟨trivial, fun _ => ht⟩
    | bool =>
      rw [Kind.read] at h
      obtain ⟨b, rfl⟩ := exists_of_readBool h
      exact ⟨trivial, fun _ => readBool_literal b⟩
    | tristate =>
      rw [Kind.read] at h
      obtain rfl | ⟨b, rfl⟩ := exists_of_readTristate h
      · exact ⟨trivial, fun _ => rfl⟩
      · exact ⟨trivial, fun _ => readTristate_literal b⟩
    | date =>
      rw [Kind.read] at h
      obtain ⟨d, rfl⟩ := exists_of_readDate h
      exact ⟨trivial, fun now => readDate_literal now.date d⟩
    | dateTime =>
      rw [Kind.read] at h
      obtain ⟨dt, rfl⟩ := exists_of_readDateTime h
      exact ⟨trivial, fun now => readDateTime_literal now dt⟩
    | time =>
      rw [Kind.read] at h
      obtain ⟨t, rfl⟩ := exists_of_readTime h
      exact ⟨trivial, fun now => readTime_clock now.time t⟩
    | choice choices =>
      rw [Kind.read, readChoice] at h
      split at h
      · rename_i hchoice
        cases h
        exact ⟨trivial, fun _ => if_pos hchoice⟩
      · simp at h

/-- **A value is read back from the query that is written for it.** In any comparison, a text that
is not too long is read as that comparison and nothing else, with one literal for the value; and a
filter of the kind that the value came from reads the text of the literal as the same value, at
whatever time it is read. -/
theorem Kind.HasValue.read_literal {k : Kind} (h : k.HasValue v) {name : String}
    (hname : isName name = true) (op : Operator) :
    (∀ limits : Limits, Query.parseWithin limits (name ++ op.symbol ++ v.literal) =
      if limits.maxLength < byteLength (name ++ op.symbol ++ v.literal).toList then
        .error ⟨.tooLong limits.maxLength, limits.maxLength⟩
      else .ok ⟨[.statement (.comparison name op v.asLiteral)]⟩) ∧
    ∀ now, k.read now v.asLiteral.text = .ok v := by
  have hback := h.readsBack
  refine ⟨fun limits => ?_, hback.read⟩
  have hwrites := (writesCondition_comparison 0 hname op hback.typable.wellFormed).expression
  rw [v.render_asLiteral] at hwrites
  split
  · rename_i hlong
    unfold Query.parseWithin
    exact if_pos hlong
  · rename_i hlength
    exact hwrites.parseWithin (Nat.zero_le _) (Nat.not_lt.1 hlength)

/-- A moment of a negative year with one nanosecond, and a decimal in digits of another script. -/
theorem Kind.HasValue.read_literal_moment :
    let moment : DateTime :=
      ⟨⟨-44, 3, 15, by decide, by decide, by decide, by decide⟩, ⟨23, 59, 59, 1⟩⟩
    (Query.parseWithin {} "at<=\"-044-03-15 23:59:59.000000001\"" =
        .ok ⟨[.statement (.comparison "at" .lte (.quoted "-044-03-15 23:59:59.000000001"))]⟩ ∧
      ∀ now, readDateTime now "-044-03-15 23:59:59.000000001" = .ok (.dateTime moment)) ∧
    readDecimal " \u0663.5 " = .ok (.decimal "\u0663.5") ∧
    Query.parseWithin {} "price=\u0663.5" =
      .ok ⟨[.statement (.comparison "price" .eq (.bare "\u0663.5"))]⟩ := by
  intro moment
  have hliteral : moment.literal = "-044-03-15 23:59:59.000000001" := by decide +kernel
  have hdecimal : readDecimal " \u0663.5 " = .ok (.decimal "\u0663.5") := rfl
  obtain ⟨hmoment, hread⟩ :=
    (HasValue.dateTime moment).read_literal (show isName "at" = true by decide) .lte
  have hvalue : HasValue .decimal (.decimal "\u0663.5") :=
    .read (show Kind.read moment .decimal " \u0663.5 " = _ from hdecimal)
  obtain ⟨hprice, -⟩ := hvalue.read_literal (show isName "price" = true by decide) .eq
  have hmoment := hmoment {}
  rw [Value.literal, Value.asLiteral, hliteral, if_neg (by decide +kernel)] at hmoment
  rw [Value.asLiteral, hliteral] at hread
  have hprice := hprice {}
  rw [if_neg (by decide +kernel)] at hprice
  exact ⟨⟨hmoment, hread⟩, hdecimal, hprice⟩

end Value

end FilterQuery
