/-
The usual kinds of filters.

Each kind fixes how a value is read, which operators there are, and how a value becomes a predicate.
In every kind the name in queries is the name in small letters, and the attribute is the name
itself, unless they are changed afterwards.
-/
import FilterQuery.Filter
import FilterQuery.Value.Reader

set_option autoImplicit false

namespace FilterQuery.Filter

open Calendar (Date Time DateTime)

/-- Text, compared without regard to case. -/
def text (name : String) : Filter where
  name
  queryName := Text.lowercase name
  attr := some name
  unary := false
  freetext := false
  operators := .caseInsensitive
  formOperator := .eq
  read := Value.readText
  queryName_lowered := Text.isLowered_lowercase name
  rule := .compare

/-- Text, compared with regard to case. -/
def caseSensitive (name : String) : Filter :=
  { text name with operators := .caseSensitive }

/-- Values that are compared by size. -/
def ordered (name : String) (read : String → Except ValueError Value) : Filter :=
  { text name with operators := .ordered, read }

/-- Integers. -/
def integer (name : String) : Filter :=
  ordered name Value.readInt

/-- Floating-point numbers. -/
def float (name : String) : Filter :=
  ordered name Value.readFloat

/-- Exact decimals. -/
def decimal (name : String) : Filter :=
  ordered name Value.readDecimal

/-- Dates, in full or relative to today. -/
def date (today : Date) (name : String) : Filter :=
  ordered name (Value.readDate today)

/-- Dates with a time of day. -/
def dateTime (now : DateTime) (name : String) : Filter :=
  ordered name (Value.readDateTime now)

/-- Times of day. -/
def time (now : Time) (name : String) : Filter :=
  ordered name (Value.readTime now)

/-- Truth values; the name may be typed alone. -/
def boolean (name : String) : Filter :=
  { text name with operators := .equality, read := Value.readBool, unary := true }

/-- Truth values that may be unknown, which empty text asks for. -/
def tristate (name : String) : Filter :=
  { boolean name with read := Value.readTristate, rule := .tristate }

/-- Addresses of electronic mail. -/
def email (name : String) : Filter :=
  { text name with read := Value.readEmail }

/-- Locators of the web. -/
def url (name : String) : Filter :=
  { text name with read := Value.readUrl }

/-- One of the texts listed. -/
def choice (name : String) (choices : List String) : Filter :=
  { text name with operators := .equality, read := Value.readChoice choices }

/-- Another record, by its name; `keys` gives the keys of the records that have a name. -/
def reference (name : String) (keys : String → List Int64) : Filter :=
  { text name with operators := .equality, rule := .reference keys }

end FilterQuery.Filter
