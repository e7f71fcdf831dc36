/-
What the usual kinds of filters have in common.

An application takes a filter of a usual kind and changes what is its own: the name, the attribute,
whether it is searched, whether its name may stand alone. How the filter reads values, which
operators it has and how it makes predicates stay those of its kind. So what is to be known of such
filters is known kind by kind, whatever they are called and whatever they look at. Nothing needs to
be known of what a locator is: any function may decide it.
-/
import FilterQuery.Filter.Kinds

set_option autoImplicit false

namespace FilterQuery.Filter

/-- Do the filters read values, understand operators and make predicates alike? -/
structure Resembles (f g : Filter) : Prop where
  read : f.read = g.read
  operators : f.operators = g.operators
  rule : f.rule = g.rule

/-- `f.IsUsual`: the filter is of one of the usual kinds and has the operators of that kind. -/
inductive IsUsual (f : Filter) : Prop
  | text (name : String) (h : f.Resembles (.text name))
  | caseSensitive (name : String) (h : f.Resembles (.caseSensitive name))
  | integer (name : String) (h : f.Resembles (.integer name))
  | float (name : String) (h : f.Resembles (.float name))
  | decimal (name : String) (h : f.Resembles (.decimal name))
  | date (today : Calendar.Date) (name : String) (h : f.Resembles (.date today name))
  | dateTime (now : Calendar.DateTime) (name : String) (h : f.Resembles (.dateTime now name))
  | time (now : Calendar.Time) (name : String) (h : f.Resembles (.time now name))
  | boolean (name : String) (h : f.Resembles (.boolean name))
  | tristate (name : String) (h : f.Resembles (.tristate name))
  | email (name : String) (h : f.Resembles (.email name))
  | url (accepts : List Char → Bool) (name : String)
      (h : f.Resembles { text name with read := Value.readAccepted accepts .notUrl })
  | choice (name : String) (choices : List String) (h : f.Resembles (.choice name choices))
  | reference (name : String) (keys : String → List Int64) (h : f.Resembles (.reference name keys))

/-- How the filters read that can be asked what they contain: text as it is, or text that some
function accepts, such as addresses. -/
inductive ReadsText (f : Filter) : Prop
  | text (h : f.read = Value.readText)
  | accepted (accepts : List Char → Bool) (fault : ValueError)
      (h : f.read = Value.readAccepted accepts fault)

variable {f : Filter}

/-- There are four tables among the usual kinds. -/
theorem IsUsual.operators_eq (h : f.IsUsual) :
    f.operators = .caseInsensitive ∨ f.operators = .caseSensitive ∨ f.operators = .ordered ∨
      f.operators = .equality := by
  cases h with
  | text _ h | email _ h | url _ _ h => exact .inl h.operators
  | caseSensitive _ h => exact .inr (.inl h.operators)
  | integer _ h | float _ h | decimal _ h => exact .inr (.inr (.inl h.operators))
  | date _ _ h | dateTime _ _ h | time _ _ h => exact .inr (.inr (.inl h.operators))
  | boolean _ h | tristate _ h => exact .inr (.inr (.inr h.operators))
  | choice _ _ h | reference _ _ h => exact .inr (.inr (.inr h.operators))

/-- **Whoever can be asked what it contains holds texts**, and compares them as the table of
operators says. -/
theorem IsUsual.of_accepts_contains (h : f.IsUsual) (hop : f.operators.accepts .contains = true) :
    f.rule = .compare ∧ f.ReadsText := by
  -- The tables of all other kinds lack the operator.
  have hlacks {g : Filter} (h : f.Resembles g) (hg : g.operators.accepts .contains = false) :
      f.rule = .compare ∧ f.ReadsText := by
    rw [h.operators, hg] at hop
    exact absurd hop (by decide)
  cases h with
  | text _ h => exact ⟨h.rule, .text h.read⟩
  | caseSensitive _ h => exact ⟨h.rule, .text h.read⟩
  | email _ h =>
    have hread : f.read = Value.readEmail := h.read.trans (by rw [Filter.email])
    rw [Value.readEmail] at hread
    exact ⟨h.rule, .accepted _ _ hread⟩
  | url accepts _ h => exact ⟨h.rule, .accepted accepts .notUrl h.read⟩
  | integer _ h => exact hlacks h rfl
  | float _ h => exact hlacks h rfl
  | decimal _ h => exact hlacks h rfl
  | date _ _ h => exact hlacks h rfl
  | dateTime _ _ h => exact hlacks h rfl
  | time _ _ h => exact hlacks h rfl
  | boolean _ h => exact hlacks h rfl
  | tristate _ h => exact hlacks h rfl
  | choice _ _ h => exact hlacks h rfl
  | reference _ _ h => exact hlacks h rfl

/-- **Such a filter keeps what it reads as it is if it is for text**, or if there are no blanks
around it. -/
theorem ReadsText.eq_text_iff (h : f.ReadsText) {s : String} {v : Value} (hv : f.read s = .ok v) :
    v = .text s ↔ f.read = Value.readText ∨ Text.trim s = s := by
  have hkeeps (hread : f.read = Value.readText) : v = .text s := by
    rw [hread] at hv
    exact (Except.ok.inj hv).symm
  cases h with
  | text h => exact iff_of_true (hkeeps h) (.inl h)
  | accepted accepts fault h =>
    have htrimmed : v = .text (Text.trim s) := by
      rw [h] at hv
      exact (Value.readAccepted_eq_ok_iff.1 hv).2
    constructor
    · intro heq
      exact .inr (Value.text.inj (htrimmed.symm.trans heq))
    · rintro (hread | heq)
      · exact hkeeps hread
      · rw [htrimmed, heq]

end FilterQuery.Filter
