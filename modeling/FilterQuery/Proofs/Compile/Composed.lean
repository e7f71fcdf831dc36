/-
What texts mean that are put together.

An application that has two texts and wants what both ask for can put them together as texts: each
in parentheses, with a connective in between. It does not have to know what is in them. Of the two
connectives `or` binds less tightly, so texts with an `or` between them need no parentheses.

That is a statement about all texts that compile. What is read of a text ends where it ended before,
whatever follows, since any text of some tokens may be followed by what may follow anything, and a
parenthesis or a blank may. And precedence makes of a sequence with an `or` in the middle what it
makes of the two halves, because it cuts at each `or` anyway.
-/
import FilterQuery.Proofs.Compile.Outcome
import FilterQuery.Proofs.Predicate.Stretches

set_option autoImplicit false

namespace FilterQuery

namespace Registry

variable {r : Registry} {depth : Nat} {limits : Limits} {s t : String} {p q : Predicate}
  {ns ms : List Node}

/-- Nodes are compiled one after the other. -/
theorem compileEach_append (r : Registry) (ns ms : List Node) :
    r.compileEach (ns ++ ms)
      = (r.compileEach ns).bind fun xs => (r.compileEach ms).map (xs ++ ·) := by
  induction ns with
  | nil =>
    rw [List.nil_append, compileEach]
    cases r.compileEach ms <;> rfl
  | cons n ns ih =>
    rw [List.cons_append, compileEach, compileEach, ih]
    cases r.compileNode n with
    | error e => rfl
    | ok item =>
      cases r.compileEach ns with
      | error e => rfl
      | ok xs => cases r.compileEach ms <;> rfl

theorem compileEach_connective {xs ys : List Item} (k : Connective)
    (hns : r.compileEach ns = .ok xs) (hms : r.compileEach ms = .ok ys) :
    r.compileEach (ns ++ .connective k :: ms) = .ok (xs ++ .connective k :: ys) := by
  rw [compileEach_append, hns, compileEach, compileNode, hms]
  rfl

/-! ## Texts and what they compile to -/

/-- `text` writes nodes that compile to `p`, of groups at most `depth` deep. -/
structure Expresses (r : Registry) (depth : Nat) (text : String) (p : Predicate) (ns : List Node) :
    Prop where
  writes : WritesExpression depth text ns
  compiles : r.compileNodes ns = .ok p

/-- **Whatever compiles expresses what it compiles to**, when it is trimmed. -/
theorem exists_expresses (h : r.compileWithin limits t = .ok p) (ht : ¬ IsBlankText t.toList)
    (hroom : limits.maxDepth ≤ depth) :
    IsTrimmed (Text.trim t).toList ∧ ∃ ns, r.Expresses depth (Text.trim t) p ns := by
  have hne : Text.trimChars t.toList ≠ [] := by
    intro hnil
    obtain ⟨blanks, blanks', hb, hb', heq⟩ := Text.exists_blanks_around t.toList
    rw [hnil, List.nil_append] at heq
    exact ht (heq ▸ List.forall_mem_append.2 ⟨hb, hb'⟩)
  have htrimmed : IsTrimmed (Text.trim t).toList := by
    rw [Text.trim, String.toList_ofList]
    exact Text.isTrimmed_trimChars hne
  refine ⟨htrimmed, ?_⟩
  obtain ⟨hempty, -⟩ | ⟨hempty, q, hq, hcompiles⟩ := exists_of_compileWithin h
  · obtain ⟨c, rest, heq, -⟩ := htrimmed.begins
    rw [String.isEmpty_iff.1 hempty] at heq
    simp at heq
  · -- Only of a blank text nothing is read, and this one is not.
    have hnodes : q.nodes ≠ [] := by
      obtain ⟨-, hblank⟩ | ⟨hnodes, -⟩ := isExpression_of_parseWithin hq
      · exact absurd hblank (not_isBlankText_trim hempty)
      · exact hnodes.ne_nil
    obtain ⟨hwf, hspelling, hdepth, -⟩ := spelling_of_parseWithin hq hnodes
    exact ⟨q.nodes, ⟨hwf, Nat.le_trans hdepth hroom, .ofLayout hspelling⟩, hcompiles⟩

/-- **A text compiles to what it expresses**, within limits that leave room for it. -/
theorem Expresses.compileWithin (h : r.Expresses depth (Text.trim t) p ns)
    (hdepth : depth ≤ limits.maxDepth)
    (hlength : byteLength (Text.trim t).toList ≤ limits.maxLength) :
    r.compileWithin limits t = .ok p := by
  have hread := h.writes.parseWithin hdepth hlength
  rw [compileWithin_of_parseWithin hread h.writes.isExpression.ne_nil]
  exact h.compiles

/-- What trimming takes away may be put back. -/
theorem Expresses.untrim (h : r.Expresses depth (Text.trim t) p ns) : r.Expresses depth t p ns := by
  obtain ⟨blanks, blanks', hb, hb', heq⟩ := Text.exists_blanks_around t.toList
  refine ⟨h.writes.pad hb hb' ?_, h.compiles⟩
  rw [Text.trim, String.toList_ofList]
  exact heq

/-! ## Putting texts together -/

/-- **Two texts in parentheses with a connective between them express what the two express,
combined.** -/
theorem Expresses.groups (hs : r.Expresses depth s p ns) (ht : r.Expresses depth t q ms)
    {separator : String} {k : Connective} {w : List Char} (hw : spells k.word w = true)
    (hseparator : separator.toList = ' ' :: (w ++ [' '])) :
    r.Expresses (depth + 1) ("(" ++ s ++ ")" ++ separator ++ ("(" ++ t ++ ")")) (k.apply p q)
      [.group ns, .connective k, .group ms] where
  writes := hs.writes.group.join hw hseparator ht.writes.group.expression
  compiles := by
    have hp := hs.compiles
    have hq := ht.compiles
    rw [compileNodes] at hp hq
    have hitems : r.compileEach [.group ns, .connective k, .group ms]
        = .ok (Precedence.joined k [p, q]) := by
      rw [compileEach, compileNode, hp, compileEach, compileNode, compileEach, compileNode, hq]
      rfl
    rw [compileNodes, hitems, Except.bind, combine,
      Precedence.resolve?_joined k (List.cons_ne_nil _ _), Connective.applyAll_cons,
      Connective.applyAll_cons, Connective.applyAll_nil, Connective.apply_empty_right]

/-- **Two texts with an `or` between them express either of what the two express.** -/
theorem Expresses.or (hs : r.Expresses depth s p ns) (ht : r.Expresses depth t q ms)
    {separator : String} {blanks blanks' w : List Char}
    (hw : spells Connective.or.word w = true) (hb : IsBlankText blanks) (hb' : IsBlankText blanks')
    (hseparator : separator.toList = blanks ++ ' ' :: (w ++ ' ' :: blanks')) :
    r.Expresses depth (s ++ separator ++ t) (p.or q) (ns ++ .connective .or :: ms) where
  writes := hs.writes.append hw hb hb' hseparator ht.writes
  compiles := by
    have hp := hs.compiles
    have hq := ht.compiles
    obtain ⟨xs, hxs, -⟩ := exists_of_bind_eq_ok hp
    obtain ⟨ys, hys, -⟩ := exists_of_bind_eq_ok hq
    have hns := hs.writes.isExpression
    have hms := ht.writes.isExpression
    rw [compileNodes_of_compileEach hns hxs] at hp
    rw [compileNodes_of_compileEach hms hys] at hq
    obtain rfl := Except.ok.inj hp
    obtain rfl := Except.ok.inj hq
    rw [compileNodes_of_compileEach (hns.append .or hms) (compileEach_connective .or hxs hys),
      Precedence.bySegments_append_or]

section Texts

variable {limits₁ limits₂ : Limits} {t₁ t₂ : String} {p₁ p₂ : Predicate}

/-- Texts in parentheses, with a connective in any of its spellings. -/
theorem compileWithin_groups (ht₁ : ¬ IsBlankText t₁.toList) (ht₂ : ¬ IsBlankText t₂.toList)
    (h₁ : r.compileWithin limits₁ t₁ = .ok p₁) (h₂ : r.compileWithin limits₂ t₂ = .ok p₂)
    (hdepth : max limits₁.maxDepth limits₂.maxDepth + 1 ≤ limits.maxDepth) {separator : String}
    {k : Connective} {w : List Char} (hw : spells k.word w = true)
    (hseparator : separator.toList = ' ' :: (w ++ [' '])) {text : String}
    (htext : text = "(" ++ t₁ ++ ")" ++ separator ++ ("(" ++ t₂ ++ ")"))
    (hlength : byteLength (Text.trim text).toList ≤ limits.maxLength) :
    r.compileWithin limits text = .ok (k.apply p₁ p₂) := by
  obtain ⟨-, ns, hns⟩ := exists_expresses h₁ ht₁ (Nat.le_max_left _ limits₂.maxDepth)
  obtain ⟨-, ms, hms⟩ := exists_expresses h₂ ht₂ (Nat.le_max_right limits₁.maxDepth _)
  have hgroups := hns.untrim.groups hms.untrim hw hseparator
  -- It begins and ends with a parenthesis, so trimming leaves it alone.
  have hparentheses : text.toList
      = '(' :: ((t₁.toList ++ ')' :: (separator.toList ++ '(' :: t₂.toList)) ++ [')']) := by
    simp [htext]
  have htrim : Text.trim text = text :=
    IsTrimmed.trim (hparentheses ▸ isTrimmed_parentheses _)
  rw [← htext, ← htrim] at hgroups
  exact hgroups.compileWithin hdepth hlength

/-- Texts as they are, with an `or` between them. -/
theorem compileWithin_or (ht₁ : ¬ IsBlankText t₁.toList) (ht₂ : ¬ IsBlankText t₂.toList)
    (h₁ : r.compileWithin limits₁ t₁ = .ok p₁) (h₂ : r.compileWithin limits₂ t₂ = .ok p₂)
    (hdepth : max limits₁.maxDepth limits₂.maxDepth ≤ limits.maxDepth)
    (hlength : byteLength (Text.trim (t₁ ++ " or " ++ t₂)).toList ≤ limits.maxLength) :
    r.compileWithin limits (t₁ ++ " or " ++ t₂) = .ok (p₁.or p₂) := by
  obtain ⟨htrimmed₁, ns, hns⟩ := exists_expresses h₁ ht₁ (Nat.le_max_left _ limits₂.maxDepth)
  obtain ⟨htrimmed₂, ms, hms⟩ := exists_expresses h₂ ht₂ (Nat.le_max_right limits₁.maxDepth _)
  rw [Text.trim, String.toList_ofList] at htrimmed₁ htrimmed₂
  -- The blanks around both are trimmed away; those between them stay, around the connective.
  obtain ⟨blanks, blanks', hb, hb', heq⟩ :=
    Text.exists_trimChars_append htrimmed₁ htrimmed₂ " or ".toList
  have htrim : Text.trim (t₁ ++ " or " ++ t₂) = Text.trim t₁
      ++ String.ofList (blanks ++ (" or ".toList ++ blanks')) ++ Text.trim t₂ := by
    rw [Text.trim, String.toList_append, String.toList_append, List.append_assoc, heq,
      String.ofList_append, String.ofList_append, ← String.append_assoc]
    rfl
  have hseparator : (String.ofList (blanks ++ (" or ".toList ++ blanks'))).toList
      = blanks ++ ' ' :: ("or".toList ++ ' ' :: blanks') := String.toList_ofList
  have hor := hns.or hms (w := "or".toList) (by decide) hb hb' hseparator
  rw [← htrim] at hor
  exact hor.compileWithin hdepth hlength

/-- **Texts can be put together as texts.**

Two texts that compile, neither of them blank, may be put in parentheses with a connective in
between. What comes out compiles to what the two compile to, combined, as long as the limits leave
room: for groups one deeper than both texts are accepted with, and for the length. With an `or` in
between the parentheses may be left out, and then no more depth is needed than before. -/
theorem compileWithin_composed (ht₁ : ¬ IsBlankText t₁.toList) (ht₂ : ¬ IsBlankText t₂.toList)
    (h₁ : r.compileWithin limits₁ t₁ = .ok p₁) (h₂ : r.compileWithin limits₂ t₂ = .ok p₂)
    (limits : Limits) :
    (max limits₁.maxDepth limits₂.maxDepth + 1 ≤ limits.maxDepth →
      (byteLength (Text.trim ("(" ++ t₁ ++ ") and (" ++ t₂ ++ ")")).toList ≤ limits.maxLength →
        r.compileWithin limits ("(" ++ t₁ ++ ") and (" ++ t₂ ++ ")") = .ok (p₁.and p₂)) ∧
      (byteLength (Text.trim ("(" ++ t₁ ++ ") or (" ++ t₂ ++ ")")).toList ≤ limits.maxLength →
        r.compileWithin limits ("(" ++ t₁ ++ ") or (" ++ t₂ ++ ")") = .ok (p₁.or p₂))) ∧
    (max limits₁.maxDepth limits₂.maxDepth ≤ limits.maxDepth →
      byteLength (Text.trim (t₁ ++ " or " ++ t₂)).toList ≤ limits.maxLength →
        r.compileWithin limits (t₁ ++ " or " ++ t₂) = .ok (p₁.or p₂)) := by
  refine ⟨fun hdepth => ⟨fun hlength => ?_, fun hlength => ?_⟩, fun hdepth hlength => ?_⟩
  · have hw : spells Connective.and.word "and".toList = true := by decide
    exact compileWithin_groups ht₁ ht₂ h₁ h₂ hdepth hw (show " and ".toList = _ from rfl)
      (String.toList_inj.1 (by simp)) hlength
  · have hw : spells Connective.or.word "or".toList = true := by decide
    exact compileWithin_groups ht₁ ht₂ h₁ h₂ hdepth hw (show " or ".toList = _ from rfl)
      (String.toList_inj.1 (by simp)) hlength
  · exact compileWithin_or ht₁ ht₂ h₁ h₂ hdepth hlength

end Texts

/-- A text that ends in a quote with what could end a group in it, and a blank; and one that asks for
two things at once. Neither of them has a group. -/
theorem compileWithin_composed_quoted :
    let t₁ := "title=Dio or title:\") or (\" "
    let t₂ := " !live and year>1980"
    let r : Registry := ⟨[Filter.text "title", Filter.integer "year", Filter.boolean "live"]⟩
    let p₁ : Predicate := .disj [.compare "title" .iexact (.value (.text "Dio")),
      .compare "title" .icontains (.value (.text ") or ("))]
    let p₂ : Predicate := .conj [.compare "live" .exact (.value (.bool false)),
      .compare "year" .gt (.value (.int 1980))]
    (¬ IsBlankText t₁.toList ∧ ¬ IsBlankText t₂.toList ∧ r.compileWithin ⟨0, 30⟩ t₁ = .ok p₁ ∧
      r.compileWithin ⟨0, 30⟩ t₂ = .ok p₂) ∧
      r.compileWithin ⟨1, 60⟩ ("(" ++ t₁ ++ ") and (" ++ t₂ ++ ")") = .ok (p₁.and p₂) ∧
      r.compileWithin ⟨1, 60⟩ ("(" ++ t₁ ++ ") or (" ++ t₂ ++ ")") = .ok (p₁.or p₂) ∧
      r.compileWithin ⟨0, 60⟩ (t₁ ++ " or " ++ t₂) = .ok (p₁.or p₂) := by
  intro t₁ t₂ r p₁ p₂
  have ht₁ : ¬ IsBlankText t₁.toList := fun h => absurd (h 't' (by decide)) (by decide)
  have ht₂ : ¬ IsBlankText t₂.toList := fun h => absurd (h '!' (by decide)) (by decide)
  have h₁ : r.compileWithin ⟨0, 30⟩ t₁ = .ok p₁ := by
    have htrim : Text.trim t₁ = "title=Dio or title:\") or (\"" := by decide +kernel
    have hread : Query.parseWithin ⟨0, 30⟩ (Text.trim t₁) = .ok
        ⟨[.statement (.comparison "title" .eq (.bare "Dio")), .connective .or,
          .statement (.comparison "title" .contains (.quoted ") or ("))]⟩ := by
      rw [htrim]
      refine parseWithin_of_run (by decide) ?_ (by decide)
      iterate 3 refine (State.run_of_step rfl).trans ?_
      exact State.run_of_done rfl
    rw [compileWithin_of_parseWithin hread (List.cons_ne_nil _ _)]
    rfl
  have h₂ : r.compileWithin ⟨0, 30⟩ t₂ = .ok p₂ := by
    have htrim : Text.trim t₂ = "!live and year>1980" := by decide +kernel
    have hread : Query.parseWithin ⟨0, 30⟩ (Text.trim t₂) = .ok
        ⟨[.statement (.flag "live" true), .connective .and,
          .statement (.comparison "year" .gt (.bare "1980"))]⟩ := by
      rw [htrim]
      refine parseWithin_of_run (by decide) ?_ (by decide)
      iterate 3 refine (State.run_of_step rfl).trans ?_
      exact State.run_of_done rfl
    rw [compileWithin_of_parseWithin hread (List.cons_ne_nil _ _)]
    rfl
  obtain ⟨hgroups, -⟩ := compileWithin_composed ht₁ ht₂ h₁ h₂ ⟨1, 60⟩
  obtain ⟨-, hor⟩ := compileWithin_composed ht₁ ht₂ h₁ h₂ ⟨0, 60⟩
  obtain ⟨hand, hor'⟩ := hgroups (by decide)
  exact ⟨⟨ht₁, ht₂, h₁, h₂⟩, hand (by decide +kernel), hor' (by decide +kernel),
    hor (by decide) (by decide +kernel)⟩

end Registry

end FilterQuery
