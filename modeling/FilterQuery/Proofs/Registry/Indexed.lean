/-
Registries that find their filters by indexes.

A registry finds a filter by looking through the list of its filters. One that is asked often keeps
two indexes beside the filters: where the filter with a name is, and where the one with a name in
queries is. Each registration writes to all three by hand, and nothing in their shape keeps them
from going astray. This is such a registry, laid down beside the list. What carries it is that an
index holds the place of every filter under its name and nothing else (`Index.Finds`), which
registration keeps because it has made sure before that the name is new.

An index is a finite map and has no order, so the names in order are sorted each time.
-/
import FilterQuery.Proofs.Registry
import Mathlib.Data.Finmap
import Mathlib.Data.Finset.Sort
import Mathlib.Data.String.Basic

set_option autoImplicit false

namespace FilterQuery

/-! ## Indexes -/

/-- The places of filters, by a name that they have. -/
abbrev Index : Type :=
  Finmap fun _ : String => Nat

namespace Index

/-- `m.Finds key fs`: the index holds the place among `fs` of each filter under the name `key` gives
to it, and nothing else. -/
def Finds (m : Index) (key : Filter → String) (fs : List Filter) : Prop :=
  ∀ name i, m.lookup name = some i ↔ ∃ f, fs[i]? = some f ∧ key f = name

variable {m : Index} {key : Filter → String} {fs : List Filter}

/-- Without filters there is nothing to find. -/
theorem finds_empty (key : Filter → String) : Finds ∅ key [] := by
  intro name i
  simp

/-- The names in the index are those of the filters. -/
theorem Finds.mem_iff (h : m.Finds key fs) {name : String} :
    name ∈ m ↔ ∃ f ∈ fs, key f = name := by
  rw [Finmap.mem_iff]
  constructor
  · rintro ⟨i, hi⟩
    obtain ⟨f, hf, hname⟩ := (h name i).1 hi
    exact ⟨f, List.mem_of_getElem? hf, hname⟩
  · rintro ⟨f, hf, hname⟩
    obtain ⟨i, hi⟩ := List.getElem?_of_mem hf
    exact ⟨i, (h name i).2 ⟨f, hi, hname⟩⟩

/-- **A filter whose name is new goes behind the others**, and the index finds it there. -/
theorem Finds.insert (h : m.Finds key fs) {f : Filter} (hnew : ∀ g ∈ fs, key g ≠ key f) :
    Finds (Finmap.insert (key f) fs.length m) key (fs ++ [f]) := by
  have hend : (fs ++ [f])[fs.length]? = some f := by simp
  intro name i
  by_cases hname : name = key f
  · -- Under the new name there is the last place, and at no other place is there such a filter.
    subst hname
    rw [Finmap.lookup_insert]
    constructor
    · intro hi
      obtain rfl := Option.some.inj hi
      exact ⟨f, hend, rfl⟩
    · rintro ⟨g, hg, hkey⟩
      rcases Nat.lt_trichotomy i fs.length with hlt | rfl | hgt
      · rw [List.getElem?_append_left hlt] at hg
        exact absurd hkey (hnew g (List.mem_of_getElem? hg))
      · rfl
      · rw [List.getElem?_eq_none (by rw [List.length_append, List.length_singleton]; omega)] at hg
        exact absurd hg (by simp)
  · -- All other names are where they have been.
    rw [Finmap.lookup_insert_of_ne _ hname, h name i]
    constructor
    · rintro ⟨g, hg, hkey⟩
      refine ⟨g, ?_, hkey⟩
      rw [List.getElem?_append_left (List.getElem?_eq_some_iff.1 hg).1, hg]
    · rintro ⟨g, hg, hkey⟩
      refine ⟨g, ?_, hkey⟩
      have hmem := List.mem_of_getElem? hg
      rcases Nat.lt_or_ge i fs.length with hlt | hge
      · rwa [List.getElem?_append_left hlt] at hg
      · rw [List.getElem?_append_right hge] at hg
        obtain rfl := List.mem_singleton.1 (List.mem_of_getElem? hg)
        exact absurd hkey.symm hname

/-- **Looking a name up is looking through the filters for it.** -/
theorem Finds.lookup_bind (h : m.Finds key fs) (name : String) :
    ((m.lookup name).bind fun i => fs[i]?) = fs.find? (key · == name) := by
  cases hfind : fs.find? (key · == name) with
  | none =>
    have hnone : m.lookup name = none := by
      rw [Finmap.lookup_eq_none, h.mem_iff]
      rintro ⟨f, hf, hname⟩
      have := List.find?_eq_none.1 hfind f hf
      exact this (beq_iff_eq.2 hname)
    rw [hnone, Option.bind_none]
  | some f =>
    obtain ⟨hname, i, hi, heq, -⟩ := List.find?_eq_some_iff_getElem.1 hfind
    have hplace : fs[i]? = some f := by rw [List.getElem?_eq_getElem hi, heq]
    rw [(h name i).2 ⟨f, hplace, beq_iff_eq.1 hname⟩, Option.bind_some, hplace]

/-- The names of the index in order are those of the filters in order, if no two share one. -/
theorem Finds.sort_keys (h : m.Finds key fs) (hdistinct : fs.Pairwise fun f g => key f ≠ key g) :
    m.keys.sort (· ≤ ·) = (fs.map key).mergeSort fun a b => decide (a ≤ b) := by
  have hnodup : (fs.map key).Nodup := List.pairwise_map.2 hdistinct
  have hperm := (fs.map key).mergeSort_perm fun a b => decide (a ≤ b)
  have hkeys : m.keys = ((fs.map key).mergeSort fun a b => decide (a ≤ b)).toFinset := by
    ext name
    rw [Finmap.mem_keys, h.mem_iff, List.mem_toFinset, hperm.mem_iff, List.mem_map]
  rw [hkeys]
  exact (List.toFinset_sort _ (hperm.nodup_iff.2 hnodup)).2 (List.pairwise_mergeSort' _ _)

end Index

/-! ## Registries with indexes -/

namespace Registry

/-- Filters in the order in which they were registered, with an index for each of their names. -/
structure Indexed where
  filters : Array Filter
  byName : Index
  byQueryName : Index

namespace Indexed

/-- The registry without filters. -/
def empty : Indexed :=
  ⟨#[], ∅, ∅⟩

/-- The filter with this name. -/
def filter? (x : Indexed) (name : String) : Option Filter :=
  (x.byName.lookup name).bind fun i => x.filters[i]?

/-- The filter that is meant by a name typed in a query. The name is looked up as it was typed, and
only if it is not there in lower case. -/
def get? (x : Indexed) (queryName : String) : Option Filter :=
  match x.byQueryName.lookup queryName with
  | some i => x.filters[i]?
  | none => (x.byQueryName.lookup (Text.lowercase queryName)).bind fun i => x.filters[i]?

/-- The names of all filters in queries, in order. -/
def names (x : Indexed) : List String :=
  x.byQueryName.keys.sort (· ≤ ·)

/-- Registers a filter, behind all others and in both indexes. -/
def register (x : Indexed) (f : Filter) : Except RegistryError Indexed :=
  if !isName f.queryName || endsInKeySuffix f.queryName then .error (.invalidName f.queryName)
  else if f.freetext && !f.operators.accepts .contains then
    .error (.freetextWithoutContains f.name)
  else if f.name ∈ x.byName then .error (.duplicateName f.name)
  else if f.queryName ∈ x.byQueryName then .error (.duplicateQueryName f.queryName)
  else .ok ⟨x.filters.push f, Finmap.insert f.name x.filters.size x.byName,
    Finmap.insert f.queryName x.filters.size x.byQueryName⟩

/-- The filters are those of the list, and each index finds all of them. -/
structure Agrees (x : Indexed) (r : Registry) : Prop where
  filters : x.filters.toList = r.filters
  byName : x.byName.Finds (·.name) r.filters
  byQueryName : x.byQueryName.Finds (·.queryName) r.filters

variable {x : Indexed} {r : Registry}

theorem agrees_empty : Agrees empty Registry.empty :=
  ⟨rfl, Index.finds_empty _, Index.finds_empty _⟩

/-! ## Answers -/

theorem Agrees.getElem?_filters (h : x.Agrees r) (i : Nat) : x.filters[i]? = r.filters[i]? := by
  rw [← h.filters, Array.getElem?_toList]

theorem Agrees.filter?_eq (h : x.Agrees r) (name : String) : x.filter? name = r.filter? name := by
  unfold filter?
  simp only [h.getElem?_filters]
  exact h.byName.lookup_bind name

theorem Agrees.get?_eq (h : x.Agrees r) (queryName : String) :
    x.get? queryName = r.get? queryName := by
  have hexactly (name : String) :
      ((x.byQueryName.lookup name).bind fun i => r.filters[i]?) = r.exactly? name :=
    h.byQueryName.lookup_bind name
  unfold get? Registry.get?
  simp only [h.getElem?_filters, ← hexactly]
  cases hlookup : x.byQueryName.lookup queryName with
  | none => rfl
  | some i =>
    -- What is found as it was typed is a filter, so that nothing is left to be looked for.
    obtain ⟨f, hf, -⟩ := (h.byQueryName queryName i).1 hlookup
    rw [Option.bind_some, hf, Option.some_or]
    exact hf

theorem Agrees.names_eq (h : x.Agrees r)
    (hdistinct : r.filters.Pairwise fun f g => f.queryName ≠ g.queryName) : x.names = r.names :=
  h.byQueryName.sort_keys hdistinct

/-! ## Registering -/

/-- **Registering a filter does the same to both**: it is refused by both for the same reason, or
both have it afterwards. -/
theorem Agrees.register (h : x.Agrees r) (f : Filter) :
    (∃ e, x.register f = .error e ∧ r.register f = .error e) ∨
      ∃ x' r', x.register f = .ok x' ∧ r.register f = .ok r' ∧ x'.Agrees r' := by
  have hname : f.name ∈ x.byName ↔ (r.filter? f.name).isSome = true := by
    rw [h.byName.mem_iff, Registry.filter?, List.find?_isSome]
    simp only [beq_iff_eq]
  have hquery : f.queryName ∈ x.byQueryName ↔ (r.exactly? f.queryName).isSome = true := by
    rw [h.byQueryName.mem_iff, exactly?, List.find?_isSome]
    simp only [beq_iff_eq]
  have hsize : x.filters.size = r.filters.length := by
    rw [← h.filters, Array.length_toList]
  unfold Indexed.register Registry.register
  simp only [hname, hquery, hsize]
  by_cases htyped : (!isName f.queryName || endsInKeySuffix f.queryName) = true
  · rw [if_pos htyped, if_pos htyped]
    exact .inl ⟨_, rfl, rfl⟩
  rw [if_neg htyped, if_neg htyped]
  by_cases hsearched : (f.freetext && !f.operators.accepts .contains) = true
  · rw [if_pos hsearched, if_pos hsearched]
    exact .inl ⟨_, rfl, rfl⟩
  rw [if_neg hsearched, if_neg hsearched]
  by_cases hnamed : (r.filter? f.name).isSome = true
  · rw [if_pos hnamed, if_pos hnamed]
    exact .inl ⟨_, rfl, rfl⟩
  rw [if_neg hnamed, if_neg hnamed]
  by_cases hqueried : (r.exactly? f.queryName).isSome = true
  · rw [if_pos hqueried, if_pos hqueried]
    exact .inl ⟨_, rfl, rfl⟩
  rw [if_neg hqueried, if_neg hqueried]
  -- Both of its names are new, so each index finds it at the end.
  refine .inr ⟨_, _, rfl, rfl, ?_, ?_, ?_⟩
  · rw [Array.toList_push, h.filters]
  · refine h.byName.insert fun g hg heq => hnamed (hname.1 ?_)
    exact h.byName.mem_iff.2 ⟨g, hg, heq⟩
  · refine h.byQueryName.insert fun g hg heq => hqueried (hquery.1 ?_)
    exact h.byQueryName.mem_iff.2 ⟨g, hg, heq⟩

/-- The same filters are refused for the same reasons. -/
theorem Agrees.register_eq_error_iff (h : x.Agrees r) (f : Filter) (e : RegistryError) :
    x.register f = .error e ↔ r.register f = .error e := by
  obtain ⟨e', hx, hr⟩ | ⟨x', r', hx, hr, -⟩ := h.register f
  · rw [hx, hr]
    constructor <;> intro he <;> exact congrArg _ (Except.error.inj he)
  · rw [hx, hr]
    simp

end Indexed

end Registry

end FilterQuery
