/-
Normal forms decide whether predicates differ only in their grouping.

Which trees say the same by their grouping alone is laid down without normalization (`Regroups`):
groups may be nested in groups of their own kind or not, a part that asks for nothing may be there
or not, a group of one part may be written without its group, and a group without parts asks for
nothing. A tree and its normal form are related in this way, and related trees have one and the same
normal form. The second half is where the flatness of the combining functions is needed: it makes
the normal form of a group depend on the list of the normal forms of its parts only up to how that
list is cut into groups.
-/
import FilterQuery.Proofs.Predicate.Combining

set_option autoImplicit false

namespace FilterQuery.Predicate

/-! ## Grouping -/

/-- `p.Regroups q`: the two predicates differ in nothing but how their parts are grouped. This is
the least congruence that contains the rules from `nested` on. -/
inductive Regroups : Predicate → Predicate → Prop
  | refl (p : Predicate) : Regroups p p
  | symm {p q : Predicate} (h : Regroups p q) : Regroups q p
  | trans {p q r : Predicate} (hp : Regroups p q) (hq : Regroups q r) : Regroups p r
  /-- A part of a group may be regrouped. -/
  | part (k : Connective) (before after : List Predicate) {p q : Predicate} (h : Regroups p q) :
      Regroups (k.group (before ++ p :: after)) (k.group (before ++ q :: after))
  /-- What is negated may be regrouped. -/
  | negated {p q : Predicate} (h : Regroups p q) : Regroups (not p) (not q)
  | nested (k : Connective) (before inner after : List Predicate) :
      Regroups (k.group (before ++ k.group inner :: after)) (k.group (before ++ inner ++ after))
  | single (k : Connective) (p : Predicate) : Regroups (k.group [p]) p
  | noParts (k : Connective) : Regroups (k.group []) empty
  | emptyPart (k : Connective) (before after : List Predicate) :
      Regroups (k.group (before ++ empty :: after)) (k.group (before ++ after))
  | notEmpty : Regroups (not empty) empty

/-! ## Every tree is a regrouping of its normal form -/

/-- Instead of a part there may be all that it contributes. -/
theorem regroups_parts (k : Connective) (before after : List Predicate) (p : Predicate) :
    Regroups (k.group (before ++ p :: after)) (k.group (before ++ k.parts p ++ after)) := by
  obtain ⟨ps, rfl⟩ | hp := k.eq_group_or_parts_eq p
  · rw [Connective.parts_group]
    exact .nested k before ps after
  · rw [hp, List.append_assoc, List.singleton_append]
    exact .refl _

/-- Two predicates are combined by regrouping the group of both. -/
theorem regroups_apply (k : Connective) (p q : Predicate) :
    Regroups (k.group [p, q]) (k.apply p q) := by
  by_cases hp : p = .empty
  · subst hp
    rw [Connective.apply_empty_left]
    exact (Regroups.emptyPart k [] [q]).trans (.single k q)
  by_cases hq : q = .empty
  · subst hq
    rw [Connective.apply_empty_right]
    exact (Regroups.emptyPart k [p] []).trans (.single k p)
  rw [k.apply_of_ne_empty hp hq]
  -- The parts of the first take its place, and then those of the second.
  have hfirst : Regroups (k.group [p, q]) (k.group (k.parts p ++ [q])) :=
    regroups_parts k [] [q] p
  have hsecond : Regroups (k.group (k.parts p ++ [q])) (k.group (k.parts p ++ k.parts q)) := by
    simpa using regroups_parts k (k.parts p) [] q
  exact hfirst.trans hsecond

/-- So is any number of predicates. -/
theorem regroups_applyAll (k : Connective) (ps : List Predicate) :
    Regroups (k.group ps) (k.applyAll ps) := by
  induction ps with
  | nil =>
    rw [Connective.applyAll_nil]
    exact .noParts k
  | cons p ps ih =>
    have hsplit : Regroups (k.group (p :: ps)) (k.group [p, k.group ps]) := by
      simpa using (Regroups.nested k [p] ps []).symm
    have hrest : Regroups (k.group [p, k.group ps]) (k.group [p, k.applyAll ps]) :=
      .part k [p] [] ih
    rw [Connective.applyAll_cons]
    exact (hsplit.trans hrest).trans (regroups_apply k p _)

/-- The two ways to negate differ only in what they make of the predicate that asks for nothing. -/
theorem regroups_negate (p : Predicate) : Regroups (not p) p.negate := by
  cases p with
  | empty => exact .notEmpty
  | leaf | conj | disj | not => exact .refl _

/-- Any number of parts may be regrouped, one after the other. -/
theorem regroups_map (k : Connective) {f : Predicate → Predicate} (before ps : List Predicate)
    (h : ∀ p ∈ ps, Regroups p (f p)) :
    Regroups (k.group (before ++ ps)) (k.group (before ++ ps.map f)) := by
  induction ps generalizing before with
  | nil => exact .refl _
  | cons p ps ih =>
    have hp : Regroups p (f p) := h p List.mem_cons_self
    have hps := ih (before ++ [f p]) fun q hq => h q (List.mem_cons_of_mem p hq)
    rw [List.append_assoc, List.append_assoc] at hps
    exact (Regroups.part k before ps hp).trans hps

/-- **Normalizing only regroups.** -/
theorem regroups_normalized (p : Predicate) : Regroups p p.normalized := by
  -- A group: its parts are regrouped where they stand, and then combined.
  have hgroup : ∀ (k : Connective) (ps : List Predicate), (∀ q ∈ ps, Regroups q q.normalized) →
      Regroups (k.group ps) (k.group ps).normalized := by
    intro k ps hps
    rw [normalized_group]
    exact (regroups_map k [] ps hps).trans (regroups_applyAll k _)
  match p with
  | empty =>
    rw [normalized]
    exact .refl _
  | leaf l =>
    rw [normalized]
    exact .refl _
  | conj ps => exact hgroup .and ps fun q _ => regroups_normalized q
  | disj ps => exact hgroup .or ps fun q _ => regroups_normalized q
  | not q =>
    rw [normalized]
    exact (Regroups.negated (regroups_normalized q)).trans (regroups_negate _)

/-! ## Regrouped trees have one normal form -/

/-- The normal form of a group depends on a part through the normal form of the part only. -/
theorem normalized_group_append (k : Connective) (before after : List Predicate) (p : Predicate) :
    (k.group (before ++ p :: after)).normalized =
      k.apply (k.applyAll (before.map normalized))
        (k.apply p.normalized (k.applyAll (after.map normalized))) := by
  rw [normalized_group, List.map_append, List.map_cons, Connective.applyAll_append,
    Connective.applyAll_cons]

/-- **Regrouping keeps the normal form.** -/
theorem Regroups.normalized_eq {p q : Predicate} (h : Regroups p q) :
    p.normalized = q.normalized := by
  induction h with
  | refl p => rfl
  | symm _ ih => exact ih.symm
  | trans _ _ ihp ihq => exact ihp.trans ihq
  | part k before after _ ih => rw [normalized_group_append, normalized_group_append, ih]
  | negated _ ih => rw [normalized, normalized, ih]
  | nested k before inner after =>
    -- Both sides combine what is before, what is inside and what is after, in this order.
    rw [normalized_group_append, normalized_group, normalized_group, List.map_append,
      List.map_append, Connective.applyAll_append, Connective.applyAll_append,
      Connective.apply_assoc]
  | single k p =>
    rw [normalized_group, List.map_singleton, Connective.applyAll_cons, Connective.applyAll_nil,
      Connective.apply_empty_right]
  | noParts k =>
    rw [normalized_group, List.map_nil, Connective.applyAll_nil, normalized]
  | emptyPart k before after =>
    rw [normalized_group_append, normalized_group, List.map_append, Connective.applyAll_append,
      normalized, Connective.apply_empty_left]
  | notEmpty =>
    rw [normalized, normalized]
    rfl

/-- **Normal forms decide equality up to regrouping**, for all predicates, those built by hand among
them. -/
theorem regroups_iff_normalized_eq (p q : Predicate) :
    Regroups p q ↔ p.normalized = q.normalized := by
  constructor
  · intro h
    exact h.normalized_eq
  · intro h
    have hq : Regroups p.normalized q := h ▸ (regroups_normalized q).symm
    exact (regroups_normalized p).trans hq

/-- A part that turns out to ask for nothing leaves a group of one, and that merges with the group
around it. -/
example : (conj [conj [disj [not empty], conj [isNull "a", isNull "b"]], isNull "c"]).normalized =
    conj [isNull "a", isNull "b", isNull "c"] := by
  rfl

end FilterQuery.Predicate
