/-
Domains in any script.

A domain is brought to one form before anything else is asked of it: every character is replaced by
what it stands for, the result is composed, and a label that is written in ASCII by the rules of
`Punycode` is decoded. Then each label must hold only characters that a domain keeps, must not begin
with a mark, and must have its joiners in place, and the labels together must agree on their
directions. Some ASCII characters would end the domain, or be read as something else, and may not
stand in it at all.
-/
import FilterQuery.Address.Direction
import FilterQuery.Address.DomainTable
import FilterQuery.Address.Joiner
import FilterQuery.Address.Punycode
import FilterQuery.Text.Composition
import FilterQuery.Text.Split

set_option autoImplicit false

namespace FilterQuery.Address

/-- Is this an ASCII character that no domain may hold? -/
def isForbiddenInDomain (c : Char) : Bool :=
  c.toNat ≤ 0x20 || c.toNat == 0x7F || "%#/:<>?@[\\]^|".toList.contains c

/-- Is the character in ASCII? -/
def isAscii (c : Char) : Bool :=
  c.toNat < 0x80

/-- Is this a label that `Punycode` could have been used for: one with characters beyond ASCII, in
composed form, all of which a domain keeps? -/
def isEncodable (label : List Char) : Bool :=
  !label.all isAscii && label.all isKept && Text.compose label == label

/-- The characters of a label, decoded if it is written in ASCII. A number of characters beyond
which no label is decoded keeps the work small. -/
def decodeLabel? (label : List Char) : Option (List Char) :=
  match label with
  | 'x' :: 'n' :: '-' :: '-' :: encoded =>
    if encoded.length ≤ 2000 && encoded.all isAscii then
      (Punycode.decode? encoded).filter isEncodable
    else none
  | _ => if label.all isAscii || label.length ≤ 1000 then some label else none

/-- Are the characters of the label fit to stand together? -/
def isSound (label : List Char) : Bool :=
  !label.head?.any isMark && joinersInPlace [] label &&
    (label.all isAscii || label.take 4 != ['x', 'n', '-', '-'])

/-- The labels of a domain in the form in which domains are compared; none if it is no domain. -/
def domainLabels? (s : List Char) : Option (List (List Char)) := do
  let mapped ← s.mapM domainForm?
  let composed := Text.compose mapped.flatten
  if composed.any isForbiddenInDomain then none
  else
    let labels ← (Text.fields '.' composed).mapM decodeLabel?
    if labels.all isSound && areOneWay labels then some labels else none

end FilterQuery.Address
