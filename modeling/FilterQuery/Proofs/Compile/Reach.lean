/-
What a text can reach.

Whoever types a query chooses the names, the operators and the values in it, but not what is looked
at: that is up to the filters. A predicate looks at attributes only in its leaves, and each leaf
comes from one statement. There are several ways from a statement to a leaf, and not all of them ask
the table of operators: a value that is compared, the attribute of another filter in its place, a
search for text, a name alone, `null`, and a key, be it typed or looked up by name. Whichever it is,
the leaf is about the attribute of a registered filter, or about the key of the record there.

The main statement says so of every leaf of whatever a text compiles to, and says which comparisons
can occur. It is a statement about the rules of this library; an application that brings a rule of
its own decides itself what that rule looks at.
-/
import FilterQuery.Proofs.Compile.Origins
import FilterQuery.Proofs.Compile.Statements
import FilterQuery.Proofs.Predicate.Leaves

set_option autoImplicit false

namespace FilterQuery

/-! ## What a filter allows -/

/-- The comparisons that a filter allows. All are about the attribute, or about the key of the record
there, and but for two of them the table of operators has the comparison. -/
inductive Filter.Traits.Allows (t : Filter.Traits) : Lookup → Prop
  | attribute {attr : String} {op : Operator} {meaning : ResolvedOperator} {operand : Operand}
      (hattr : t.attr = some attr) (hop : t.operators.find? op = some meaning) :
      t.Allows ⟨attr, meaning.comparison, operand⟩
  | key {attr : String} {op : Operator} {meaning : ResolvedOperator} {k : Int64}
      (hattr : t.attr = some attr) (hop : t.operators.find? op = some meaning) :
      t.Allows ⟨attr ++ ".pk", meaning.comparison, .value (.int k)⟩
  | noValue {attr : String} (hattr : t.attr = some attr) :
      t.Allows ⟨attr, .isNull, .value (.bool true)⟩
  | exactKey {attr : String} {k : Int64} (hattr : t.attr = some attr) :
      t.Allows ⟨attr ++ ".pk", .exact, .value (.int k)⟩

/-- The predicate makes only comparisons that the filter allows, each with this operand or with a
value. -/
def Filter.Traits.Asks (t : Filter.Traits) (operand : Operand) (p : Predicate) : Prop :=
  ∀ l ∈ p.leaves, t.Allows l ∧ (l.operand = operand ∨ ∃ v, l.operand = .value v)

/-- The rules for predicates of this library. -/
inductive PredicateRule.IsUsual : PredicateRule → Prop
  | compare : IsUsual .compare
  | tristate : IsUsual .tristate
  | reference (keys : String → List Int64) : IsUsual (.reference keys)

namespace Filter.Traits

variable {t : Filter.Traits}

/-- An operator is resolved as the table says. -/
theorem resolve_eq_ok_iff {op : Operator} {meaning : ResolvedOperator} :
    t.resolve op = .ok meaning ↔ t.operators.find? op = some meaning := by
  unfold resolve
  cases t.operators.find? op <;> simp

theorem asks_empty (operand : Operand) : t.Asks operand .empty := by
  intro l hl
  rw [Predicate.leaves] at hl
  exact absurd hl List.not_mem_nil

/-- A single comparison is asked for if it is allowed, be it as it is or its opposite. -/
theorem asks_negateIf {l : Lookup} {operand : Operand} (negated : Bool) (hl : t.Allows l)
    (hoperand : l.operand = operand ∨ ∃ v, l.operand = .value v) :
    t.Asks operand ((Predicate.leaf l).negateIf negated) := by
  intro m hm
  rw [Predicate.leaves_negateIf, Predicate.leaves] at hm
  obtain rfl := List.mem_singleton.1 hm
  exact ⟨hl, hoperand⟩

/-- What the table says of the attribute is asked for. -/
theorem asks_predicate {op : Operator} {meaning : ResolvedOperator} {attr : String}
    (hattr : t.attr = some attr) (h : t.resolve op = .ok meaning) (operand : Operand) :
    t.Asks operand (meaning.predicate attr operand) :=
  asks_negateIf meaning.negated (.attribute hattr (resolve_eq_ok_iff.1 h)) (.inl rfl)

end Filter.Traits

/-! ## Rules -/

namespace PredicateRule

variable {t : Filter.Traits} {op : Operator} {operand : Operand} {p : Predicate}

theorem asks_of_compare (h : compare t op operand = .ok (some p)) : t.Asks operand p := by
  unfold compare at h
  split at h
  · obtain rfl := Option.some.inj (Except.ok.inj h)
    exact t.asks_empty operand
  · rename_i attr hattr
    obtain ⟨meaning, hmeaning, hp⟩ := exists_of_map_eq_ok h
    obtain rfl := Option.some.inj hp
    exact Filter.Traits.asks_predicate hattr hmeaning operand

theorem asks_of_tristate (h : tristate t op operand = .ok (some p)) : t.Asks operand p := by
  unfold tristate at h
  split at h
  · obtain ⟨meaning, -, hp⟩ := exists_of_map_eq_ok h
    obtain rfl := Option.some.inj hp
    split
    · exact t.asks_empty _
    · rename_i attr hattr
      exact Filter.Traits.asks_negateIf meaning.negated (.noValue hattr) (.inr ⟨_, rfl⟩)
  · exact asks_of_compare h

theorem asks_of_reference {keys : String → List Int64}
    (h : reference keys t op operand = .ok (some p)) : t.Asks operand p := by
  unfold reference at h
  split at h
  · obtain rfl := Option.some.inj (Except.ok.inj h)
    exact t.asks_empty operand
  · rename_i attr hattr
    obtain ⟨meaning, hmeaning, hp⟩ := exists_of_bind_eq_ok h
    split at hp
    · -- A name: only one that a single record has gives a predicate.
      split at hp
      · simp at hp
      · obtain rfl := Option.some.inj (Except.ok.inj hp)
        refine Filter.Traits.asks_negateIf meaning.negated ?_ (.inr ⟨_, rfl⟩)
        exact .key hattr (Filter.Traits.resolve_eq_ok_iff.1 hmeaning)
      · simp at hp
    · obtain rfl := Option.some.inj (Except.ok.inj hp)
      exact Filter.Traits.asks_predicate hattr hmeaning _

/-- **The rules of this library ask only for what the filter allows.** -/
theorem IsUsual.asks {rule : PredicateRule} (hrule : rule.IsUsual)
    (h : rule t op operand = .ok (some p)) : t.Asks operand p := by
  cases hrule with
  | compare => exact asks_of_compare h
  | tristate => exact asks_of_tristate h
  | reference keys => exact asks_of_reference h

end PredicateRule

/-! ## Statements -/

namespace Registry

variable {r : Registry} {p : Predicate}

/-- The comparisons that a registry lets a text make: one of its filters allows them, and if they
are with another attribute, one of its filters has that. -/
structure Reaches (r : Registry) (l : Lookup) : Prop where
  allowed : ∃ f ∈ r.filters, f.Allows l
  known : ∀ path, l.operand = .field path → ∃ g ∈ r.filters, g.attr = some path

/-- What one of the filters asks for is reached. -/
theorem reaches_of_asks {f : Filter} (hf : f ∈ r.filters) {operand : Operand}
    (hoperand : ∀ path, operand = .field path → ∃ g ∈ r.filters, g.attr = some path)
    (h : f.Asks operand p) : ∀ l ∈ p.leaves, r.Reaches l := by
  intro l hl
  obtain ⟨hallows, hl⟩ := h l hl
  refine ⟨⟨f, hf, hallows⟩, fun path hpath => ?_⟩
  obtain heq | ⟨v, hv⟩ := hl
  · exact hoperand path (heq ▸ hpath)
  · rw [hv] at hpath
    exact absurd hpath nofun

theorem reaches_of_asks_value {f : Filter} (hf : f ∈ r.filters) {v : Value}
    (h : f.Asks (.value v) p) : ∀ l ∈ p.leaves, r.Reaches l :=
  reaches_of_asks hf (fun _ hpath => by simp at hpath) h

/-- **Whatever can come of a statement reaches only what is registered.** -/
theorem Makes.reaches (hr : ∀ f ∈ r.filters, f.rule.IsUsual) (h : r.Makes p) :
    ∀ l ∈ p.leaves, r.Reaches l := by
  cases h with
  | value hf h => exact reaches_of_asks_value hf ((hr _ hf).asks h)
  | field hf hg hpath h =>
    refine reaches_of_asks hf (fun path hpath' => ?_) ((hr _ hf).asks h)
    obtain rfl := Operand.field.inj hpath'
    exact ⟨_, hg, hpath⟩
  | key hf hattr k =>
    -- A key is compared with a number, whatever the rule and the table are.
    exact reaches_of_asks_value hf
      (Filter.Traits.asks_negateIf false (.exactKey hattr) (.inl rfl))
  | noValue hf hattr negated =>
    -- Nor does `null` ask the rule or the table.
    exact reaches_of_asks_value hf
      (Filter.Traits.asks_negateIf negated (.noValue hattr) (.inl rfl))
  | search h =>
    intro l hl
    rw [show Predicate.any _ = Connective.or.applyAll _ from rfl, Predicate.leaves_applyAll,
      Predicate.mem_leavesEach] at hl
    obtain ⟨q, hq, hl⟩ := hl
    obtain ⟨f, hf, attr, meaning, v, hattr, hmeaning, rfl⟩ := h q hq
    exact reaches_of_asks_value hf (Filter.Traits.asks_predicate hattr hmeaning _) l hl
  | nothing =>
    rw [Predicate.leaves]
    exact fun l hl => absurd hl List.not_mem_nil

/-- Each kind of statement reaches only what is registered. -/
theorem reaches_of_compileStatement (hr : ∀ f ∈ r.filters, f.rule.IsUsual) {s : Statement}
    (h : r.compileStatement s = .ok p) : ∀ l ∈ p.leaves, r.Reaches l :=
  (makes_of_compileStatement h).reaches hr

/-! ## Texts -/

/-- Combining reaches nothing that the two parts do not reach. -/
theorem keptByCombining_reaches (r : Registry) :
    KeptByCombining fun p => ∀ l ∈ p.leaves, r.Reaches l := by
  intro k p q hp hq l hl
  rw [Predicate.leaves_apply] at hl
  rcases List.mem_append.1 hl with hl | hl
  · exact hp l hl
  · exact hq l hl

/-- **A text reaches only what is registered.**

Every comparison in whatever a text compiles to, at any depth, is about the attribute of a registered
filter or about the key of the record there. It is one that the table of that filter has for some
operator; or it asks whether the attribute has a value, or whether the key is a given one. And an
attribute that is compared with is that of a registered filter. -/
theorem leaves_registered {r : Registry} (hr : ∀ f ∈ r.filters, f.rule.IsUsual) {limits : Limits}
    {text : String} {p : Predicate} (h : r.compileWithin limits text = .ok p) :
    ∀ l ∈ p.leaves, r.Reaches l := by
  have hempty : ∀ l ∈ Predicate.empty.leaves, r.Reaches l := by
    rw [Predicate.leaves]
    exact fun l hl => absurd hl List.not_mem_nil
  exact of_compileWithin r.keptByCombining_reaches
    (fun s q hq => reaches_of_compileStatement hr hq) hempty h

/-- A value that names another filter, a record looked up by its name, and `null`, the last two in a
group. The table of the first filter is asked, and that of the second for one of its statements. -/
theorem leaves_registered_group :
    let text := "title!=ALBUM or (artist=\"Dio\" and artist!=null)"
    let r : Registry := ⟨[Filter.text "title", { Filter.text "album" with attr := some "disc.title" },
      Filter.reference "artist" fun _ => [3]]⟩
    let p : Predicate := .disj [.not (.compare "title" .iexact (.field "disc.title")),
      .conj [.compare "artist.pk" .exact (.value (.int 3)), .not (.isNull "artist")]]
    (∀ f ∈ r.filters, f.rule.IsUsual) ∧ r.compileWithin {} text = .ok p ∧
      ∀ l ∈ p.leaves, r.Reaches l := by
  intro text r p
  have hr : ∀ f ∈ r.filters, f.rule.IsUsual := by
    intro f hf
    simp only [r, List.mem_cons, List.not_mem_nil, or_false] at hf
    rcases hf with rfl | rfl | rfl
    · exact .compare
    · exact .compare
    · exact .reference fun _ => [3]
  have hartist : isName "artist" = true := by decide
  have hword : (Literal.bare "ALBUM").WellFormed :=
    ⟨by decide, List.all_eq_true.1 (by decide +kernel), by decide⟩
  have htitle := writesCondition_comparison 1 (show isName "title" = true by decide) .notEq hword
  have hkey := writesCondition_comparison 0 hartist .eq (v := .quoted "Dio") trivial
  have hnull := writesCondition_comparison 0 hartist .notEq (v := .null) trivial
  have hgroup := hkey.join (k := .and) (w := "and".toList) (by decide)
    (show " and ".toList = _ from rfl) hnull.expression
  have htrim : Text.trim text = text := by decide +kernel
  have hread : Query.parseWithin {} text = .ok _ :=
    (htitle.join (k := .or) (w := "or".toList) (by decide) (show " or ".toList = _ from rfl)
      hgroup.group.expression).parseWithin (by decide) (by decide +kernel)
  have hp : r.compileWithin {} text = .ok p := by
    rw [compileWithin_of_parseWithin ((congrArg _ htrim).trans hread) (List.cons_ne_nil _ _)]
    rfl
  exact ⟨hr, hp, leaves_registered hr hp⟩

end Registry

end FilterQuery
