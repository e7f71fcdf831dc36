/-
Parentheses that make no difference.

A group may be written without its parentheses in two places: where there is nothing but `and` in
it, and where there is nothing but `or` next to it. What is in the group is then combined at another
moment, with other operands on the stacks, and still the same tree comes out, and the same error if
there is one.

That is known of stretches of a sequence (`Precedence.bySegments_inline_and` and
`bySegments_inline_or`), and what is around a group in a query is always around a stretch of what the
nodes compile to. Nodes are compiled in the order in which they are written, with the parentheses or
without, so the first fault stays the first. The rest is an induction on how deep the group is.
-/
import FilterQuery.Proofs.Compile.Composed

set_option autoImplicit false

namespace FilterQuery

/-! ## Groups without their parentheses -/

/-- Do parentheses around `inner` make no difference between `before` and `after`? Either there is
nothing but `and` in them, or there is nothing but `or` next to them. -/
def IsRedundant (before inner after : List Node) : Prop :=
  (∀ k, .connective k ∈ inner → k = .and) ∨
    (∀ k, before.getLast? = some (.connective k) → k = .or) ∧
      ∀ k, after.head? = some (.connective k) → k = .or

/-- `Splices ns ms`: the nodes `ms` are `ns` without the parentheses around one group, at some depth,
that make no difference there. -/
inductive Splices : List Node → List Node → Prop
  | here {before inner after : List Node} (h : IsRedundant before inner after) :
      Splices (before ++ .group inner :: after) (before ++ (inner ++ after))
  | deeper {before inner inner' after : List Node} (h : Splices inner inner') :
      Splices (before ++ .group inner :: after) (before ++ .group inner' :: after)

/-- Where there are parentheses there are nodes. -/
theorem Splices.ne_nil {ns ms : List Node} (h : Splices ns ms) : ns ≠ [] := by
  cases h <;> exact List.append_ne_nil_of_right_ne_nil _ (List.cons_ne_nil _ _)

/-- Nodes that a condition may follow: none, or an expression and a connective. -/
def LeadsUp (before : List Node) : Prop :=
  before = [] ∨ ∃ ns k, before = ns ++ [.connective k] ∧ IsExpression ns

/-- Nodes that may follow a condition: none, or a connective and an expression. -/
def CarriesOn (after : List Node) : Prop :=
  after = [] ∨ ∃ k ns, after = .connective k :: ns ∧ IsExpression ns

/-- Between such nodes there may be any expression. -/
theorem IsExpression.between {before inner after : List Node} (hinner : IsExpression inner)
    (hbefore : LeadsUp before) (hafter : CarriesOn after) :
    IsExpression (before ++ (inner ++ after)) := by
  have hrest : IsExpression (inner ++ after) := by
    obtain rfl | ⟨k, ns, rfl, hns⟩ := hafter
    · rwa [List.append_nil]
    · exact hinner.append k hns
  obtain rfl | ⟨ns, k, rfl, hns⟩ := hbefore
  · exact hrest
  · rw [List.append_assoc, List.singleton_append]
    exact hns.append k hrest

/-- What is around a group of an expression is what may be around a condition. -/
theorem IsExpression.around_group {ns before inner after : List Node} (h : IsExpression ns)
    (hns : ns = before ++ .group inner :: after) : LeadsUp before ∧ CarriesOn after := by
  induction h using IsExpression.induction generalizing before with
  | @one n hn =>
    obtain ⟨rfl, hrest⟩ | ⟨-, hrest⟩ := List.singleton_eq_append_iff.1 hns
    · exact ⟨.inl rfl, .inl (List.cons.inj hrest).2⟩
    · exact absurd hrest (List.cons_ne_nil _ _)
  | @join n ms k hn hms ih =>
    -- The group is the first condition, or it is found in what follows the connective.
    match before with
    | [] =>
      obtain ⟨-, rfl⟩ := List.cons.inj hns
      exact ⟨.inl rfl, .inr ⟨k, ms, rfl, hms⟩⟩
    | [_] => cases hns
    | _ :: _ :: before =>
      obtain ⟨rfl, htail⟩ := List.cons.inj hns
      obtain ⟨rfl, hms'⟩ := List.cons.inj htail
      obtain ⟨hbefore, hafter⟩ := ih hms'
      refine ⟨.inr ?_, hafter⟩
      obtain rfl | ⟨ns', k', rfl, hns'⟩ := hbefore
      · exact ⟨[n], k, rfl, .one hn⟩
      · exact ⟨n :: .connective k :: ns', k', rfl, .join k hn hns'⟩

/-- **Without the parentheses there is still an expression.** -/
theorem Splices.isExpression {ns ms : List Node} (h : Splices ns ms) (hns : IsExpression ns) :
    IsExpression ms := by
  induction h with
  | here _ =>
    obtain ⟨hbefore, hafter⟩ := hns.around_group rfl
    exact (hns.of_mem_group (by simp)).between hbefore hafter
  | deeper _ ih =>
    obtain ⟨hbefore, hafter⟩ := hns.around_group rfl
    have hinner := ih (hns.of_mem_group (by simp))
    exact (IsExpression.one (.group hinner)).between hbefore hafter

namespace Registry

variable {r : Registry} {ns ms before inner after : List Node} {items xs ys zs : List Item}

/-! ## Compiling without the parentheses -/

/-- The connectives of a sequence are those of the nodes. -/
theorem connective_mem_of_compileEach (h : r.compileEach ns = .ok items) {k : Connective}
    (hk : .connective k ∈ items) : .connective k ∈ ns := by
  induction ns generalizing items with
  | nil =>
    obtain rfl := Except.ok.inj h
    exact absurd hk List.not_mem_nil
  | cons n ns ih =>
    obtain ⟨item, hitem, htail⟩ := exists_of_bind_eq_ok h
    obtain ⟨rest, hrest, rfl⟩ := exists_of_map_eq_ok htail
    obtain rfl | hk := List.mem_cons.1 hk
    · cases n with
      | connective k' =>
        cases Except.ok.inj hitem
        exact List.mem_cons_self
      | statement s | group inner =>
        obtain ⟨p, -, hp⟩ := exists_of_map_eq_ok hitem
        cases hp
    · exact List.mem_cons_of_mem n (ih hrest hk)

/-- What is combined comes to the same with the parentheses and without. -/
theorem bySegments_inline (h : IsRedundant before inner after) (hbefore : LeadsUp before)
    (hafter : CarriesOn after) (hxs : r.compileEach before = .ok xs)
    (hys : r.compileEach inner = .ok ys) (hzs : r.compileEach after = .ok zs) :
    Precedence.bySegments (xs ++ .predicate (Precedence.bySegments ys) :: zs)
      = Precedence.bySegments (xs ++ (ys ++ zs)) := by
  obtain hand | ⟨hor, hor'⟩ := h
  · exact Precedence.bySegments_inline_and
      (fun k hk => hand k (connective_mem_of_compileEach hys hk)) xs zs
  · -- What is before the group ends in an `or`, then, and what is behind it begins with one.
    refine Precedence.bySegments_inline_or ys ?_ ?_
    · obtain rfl | ⟨ns, k, rfl, -⟩ := hbefore
      · exact .inl (Except.ok.inj hxs).symm
      · obtain rfl := hor k List.getLast?_concat
        rw [compileEach_append] at hxs
        obtain ⟨xs', -, hlast⟩ := exists_of_bind_eq_ok hxs
        exact .inr ⟨xs', (Except.ok.inj hlast).symm⟩
    · obtain rfl | ⟨k, ns, rfl, -⟩ := hafter
      · exact .inl (Except.ok.inj hzs).symm
      · obtain rfl := hor' k rfl
        obtain ⟨item, hitem, htail⟩ := exists_of_bind_eq_ok hzs
        obtain rfl := Except.ok.inj hitem
        obtain ⟨zs', -, rfl⟩ := exists_of_map_eq_ok htail
        exact .inr ⟨zs', rfl⟩

/-- What is around a group is compiled before it and after it. -/
theorem compileEach_around (r : Registry) (before inner after : List Node) :
    r.compileEach (before ++ .group inner :: after)
      = (r.compileEach before).bind fun xs => (r.compileNodes inner).bind fun p =>
          (r.compileEach after).map fun zs => xs ++ .predicate p :: zs := by
  rw [compileEach_append, compileEach, compileNode, ← compileNodes]
  cases r.compileEach before with
  | error e => rfl
  | ok xs =>
    cases r.compileNodes inner with
    | error e => rfl
    | ok p => cases r.compileEach after <;> rfl

/-- So it is if the group is without its parentheses. -/
theorem compileEach_between (r : Registry) (before inner after : List Node) :
    r.compileEach (before ++ (inner ++ after))
      = (r.compileEach before).bind fun xs => (r.compileEach inner).bind fun ys =>
          (r.compileEach after).map fun zs => xs ++ (ys ++ zs) := by
  rw [compileEach_append, compileEach_append]
  cases r.compileEach before with
  | error e => rfl
  | ok xs =>
    cases r.compileEach inner with
    | error e => rfl
    | ok ys => cases r.compileEach after <;> rfl

/-- **One pair of parentheses that makes no difference.** -/
theorem compileNodes_inline (h : IsRedundant before inner after)
    (hns : IsExpression (before ++ .group inner :: after)) :
    r.compileNodes (before ++ .group inner :: after)
      = r.compileNodes (before ++ (inner ++ after)) := by
  obtain ⟨hbefore, hafter⟩ := hns.around_group rfl
  have hinner : IsExpression inner := hns.of_mem_group (by simp)
  have hms := hinner.between hbefore hafter
  have hwith := r.compileEach_around before inner after
  have hwithout := r.compileEach_between before inner after
  -- The first part at fault is the same, and without one both sequences are combined by the rule.
  cases hxs : r.compileEach before with
  | error e => rw [compileNodes, compileNodes, hwith, hwithout, hxs]; rfl
  | ok xs =>
    cases hys : r.compileEach inner with
    | error e =>
      rw [compileNodes, compileNodes, hwith, hwithout, hxs, compileNodes, hys]; rfl
    | ok ys =>
      have hp := compileNodes_of_compileEach hinner hys
      cases hzs : r.compileEach after with
      | error e => rw [compileNodes, compileNodes, hwith, hwithout, hxs, hp, hys, hzs]; rfl
      | ok zs =>
        rw [hxs, hp, hzs] at hwith
        rw [hxs, hys, hzs] at hwithout
        rw [compileNodes_of_compileEach hns hwith, compileNodes_of_compileEach hms hwithout,
          bySegments_inline h hbefore hafter hxs hys hzs]

/-- **Leaving out parentheses that make no difference does not change what nodes compile to**, at any
depth. -/
theorem compileNodes_of_splices (h : Splices ns ms) (hns : IsExpression ns) :
    r.compileNodes ns = r.compileNodes ms := by
  induction h with
  | here h => exact compileNodes_inline h hns
  | deeper _ ih =>
    have hinner := ih (hns.of_mem_group (by simp))
    rw [compileNodes, compileNodes, compileEach_around, compileEach_around, hinner]

/-- **Parentheses that make no difference do not change the result.**

Take a query that has been read, and the same query without the parentheses around one group, at any
depth, where there is nothing but `and` in the group or nothing but `or` next to it. Both compile to
the same predicate, the trees being equal, or fail with the same error, and so do all texts that
write the one and the other. -/
theorem compile_of_splices {limits : Limits} {text : String} {q : Query}
    (hread : Query.parseWithin limits text = .ok q) (h : Splices q.nodes ms) :
    r.compileNodes q.nodes = r.compileNodes ms ∧
      ∀ (limits₁ limits₂ : Limits) (t₁ t₂ : String),
        Query.parseWithin limits₁ (Text.trim t₁) = .ok q →
        Query.parseWithin limits₂ (Text.trim t₂) = .ok ⟨ms⟩ →
        r.compileWithin limits₁ t₁ = r.compileWithin limits₂ t₂ := by
  obtain ⟨hns, -⟩ := spelling_of_parseWithin hread h.ne_nil
  have hnodes := compileNodes_of_splices (r := r) h hns
  refine ⟨hnodes, fun limits₁ limits₂ t₁ t₂ h₁ h₂ => ?_⟩
  rw [compileWithin_of_parseWithin h₁ hns.ne_nil,
    compileWithin_of_parseWithin h₂ (h.isExpression hns).ne_nil]
  exact hnodes

/-- A group of `or` in a group of `or`, in a query that also needs parentheses. -/
theorem compile_of_splices_nested :
    let r : Registry := ⟨[Filter.text "title", Filter.integer "year", Filter.boolean "live"]⟩
    let t₁ := "live and ((year>1980 or year<1970) or title=Dio)"
    let t₂ := "live and (year>1980 or year<1970 or title=Dio)"
    let late : Node := .statement (.comparison "year" .gt (.bare "1980"))
    let early : Node := .statement (.comparison "year" .lt (.bare "1970"))
    let title : Node := .statement (.comparison "title" .eq (.bare "Dio"))
    let live : Node := .statement (.flag "live" false)
    let q : Query := ⟨[live, .connective .and,
      .group [.group [late, .connective .or, early], .connective .or, title]]⟩
    let ms := [live, .connective .and,
      .group [late, .connective .or, early, .connective .or, title]]
    (Query.parseWithin ⟨2, 60⟩ (Text.trim t₁) = .ok q ∧ Splices q.nodes ms ∧
        Query.parseWithin ⟨1, 60⟩ (Text.trim t₂) = .ok ⟨ms⟩) ∧
      r.compileNodes q.nodes = r.compileNodes ms ∧
      r.compileWithin ⟨2, 60⟩ t₁ = r.compileWithin ⟨1, 60⟩ t₂ ∧
      r.compileWithin ⟨1, 60⟩ t₂ = .ok (.conj [.compare "live" .exact (.value (.bool true)),
        .disj [.compare "year" .gt (.value (.int 1980)), .compare "year" .lt (.value (.int 1970)),
          .compare "title" .iexact (.value (.text "Dio"))]]) := by
  intro r t₁ t₂ late early title live q ms
  have htrim₁ : Text.trim t₁ = "live and ((year>1980 or year<1970) or title=Dio)" := by
    decide +kernel
  have htrim₂ : Text.trim t₂ = "live and (year>1980 or year<1970 or title=Dio)" := by
    decide +kernel
  have hread₁ : Query.parseWithin ⟨2, 60⟩ (Text.trim t₁) = .ok q := by
    rw [htrim₁]
    refine parseWithin_of_run (by decide) ?_ (by decide)
    iterate 11 refine (State.run_of_step rfl).trans ?_
    exact State.run_of_done rfl
  have hread₂ : Query.parseWithin ⟨1, 60⟩ (Text.trim t₂) = .ok ⟨ms⟩ := by
    rw [htrim₂]
    refine parseWithin_of_run (by decide) ?_ (by decide)
    iterate 9 refine (State.run_of_step rfl).trans ?_
    exact State.run_of_done rfl
  have hsplices : Splices q.nodes ms := by
    have hinner : IsRedundant [] [late, .connective .or, early] [.connective .or, title] :=
      .inr ⟨nofun, fun k hk => by simpa using hk.symm⟩
    exact @Splices.deeper [live, .connective .and] _ _ [] (.here hinner)
  obtain ⟨hnodes, htexts⟩ := compile_of_splices (r := r) hread₁ hsplices
  refine ⟨⟨hread₁, hsplices, hread₂⟩, hnodes, htexts ⟨2, 60⟩ ⟨1, 60⟩ t₁ t₂ hread₁ hread₂, ?_⟩
  rw [compileWithin_of_parseWithin hread₂ (List.cons_ne_nil _ _)]
  rfl

end Registry

end FilterQuery
