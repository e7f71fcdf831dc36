/-
Addresses of electronic mail.

An address is a local part and a domain with one `@` between them. The local part is made of words
with full stops between them; the domain has at least two labels, the last of which is letters only.
-/
import FilterQuery.Text.Split

set_option autoImplicit false

namespace FilterQuery.Address

/-- May this character stand in a word of the local part? -/
def isLocalChar (c : Char) : Bool :=
  c.isAlphanum || "-!#$%&*+/=?^_|~".toList.contains c || c.toNat == 0x27 || c.toNat == 0x60 ||
    c.toNat == 0x7B || c.toNat == 0x7D

/-- Is this a word of the local part? -/
def isLocalWord (s : List Char) : Bool :=
  !s.isEmpty && s.all isLocalChar

/-- Is this a label of the domain? It has at most 63 letters, digits and hyphens, and no hyphen at
either end. -/
def isDomainLabel (s : List Char) : Bool :=
  s.length ≤ 63 && s.all (fun c => c.isAlphanum || c == '-') &&
    s.head?.any Char.isAlphanum && s.getLast?.any Char.isAlphanum

/-- Is this the last label of a domain, two to 63 letters? -/
def isTopLabel (s : List Char) : Bool :=
  2 ≤ s.length && s.length ≤ 63 && s.all Char.isAlpha

/-- Is this a domain with at least two labels? -/
def isDomain (s : List Char) : Bool :=
  match (Text.fields '.' s).reverse with
  | top :: label :: labels => isTopLabel top && (label :: labels).all isDomainLabel
  | _ => false

/-- Is this an address of electronic mail? -/
def isEmail (s : List Char) : Bool :=
  match Text.fields '@' s with
  | [localPart, domain] => (Text.fields '.' localPart).all isLocalWord && isDomain domain
  | _ => false

end FilterQuery.Address
