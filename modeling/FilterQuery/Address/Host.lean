/-
Hosts: domains, and the addresses of the internet protocol.

Where a domain would end in a number it is an address of the fourth version, in one to four numbers
that may be decimal, octal or hexadecimal, the last of which fills what the others leave. An address
of the sixth version stands between brackets.
-/
import FilterQuery.Address.Domain

set_option autoImplicit false

namespace FilterQuery.Address

/-! ## Version four -/

/-- Is this a digit in base 16? -/
def isHexDigit (c : Char) : Bool :=
  c.isDigit || ('a' ≤ c && c ≤ 'f') || ('A' ≤ c && c ≤ 'F')

/-- The number that digits in a base stand for. -/
def ofDigitsInBase (base : Nat) (s : List Char) : Nat :=
  s.foldl (fun n c => base * n + Text.hexValue c) 0

/-- Reads a part of an address as a number in its base. A prefix without digits means zero. -/
def readPart? : List Char → Option Nat
  | [] => none
  | '0' :: 'x' :: digits => hexadecimal? digits
  | '0' :: 'X' :: digits => hexadecimal? digits
  | ['0'] => some 0
  | '0' :: digits =>
    if digits.all fun c => '0' ≤ c && c ≤ '7' then some (ofDigitsInBase 8 digits) else none
  | digits => if digits.all Char.isDigit then some (ofDigitsInBase 10 digits) else none
where
  /-- Reads digits in base 16. -/
  hexadecimal? (digits : List Char) : Option Nat :=
    if digits.all isHexDigit then some (ofDigitsInBase 16 digits) else none

/-- The labels without an empty one at their end. -/
def dropEmptyLast (labels : List (List Char)) : List (List Char) :=
  if labels.getLast? == some [] then labels.dropLast else labels

/-- Do the labels end in a number, so that they are meant as an address? -/
def endsInNumber (labels : List (List Char)) : Bool :=
  if labels.length ≤ 1 && labels.head? == some [] then false
  else match (dropEmptyLast labels).getLast? with
    | some last => (!last.isEmpty && last.all Char.isDigit) || (readPart? last).isSome
    | none => false

/-- Are the numbers an address? All but the last are bytes, and the last fills the other bytes. -/
def areAddress (numbers : List Nat) : Bool :=
  match numbers.reverse with
  | [] => false
  | last :: others =>
    others.length ≤ 3 && others.all (· ≤ 255) && last < Nat.pow 256 (4 - others.length)

/-- Are the labels an address of the fourth version? -/
def isAddress4 (labels : List (List Char)) : Bool :=
  match (dropEmptyLast labels).mapM readPart? with
  | some numbers => areAddress numbers
  | none => false

/-! ## Version six -/

/-- Is this a byte in decimal digits without leading zeros? -/
def isPlainByte (s : List Char) : Bool :=
  s == ['0'] ||
    (!s.isEmpty && s.length ≤ 3 && s.all Char.isDigit && s.head? != some '0' &&
      ofDigitsInBase 10 s ≤ 255)

/-- Are these four bytes with full stops between them? -/
def isDottedQuad (s : List Char) : Bool :=
  let parts := Text.fields '.' s
  parts.length == 4 && parts.all isPlainByte

/-- Is this the rest of an address of which `left` pieces are still to come? Two colons stand once
for as many pieces as are missing; `compressed` says that they have been used. -/
def isAddress6From (compressed : Bool) : Nat → List Char → Bool
  | 0, s => s.isEmpty
  | _ + 1, [] => compressed
  | left + 1, ':' :: r => !compressed && isAddress6From true left r
  | left + 1, s =>
    let digits := (s.take 4).takeWhile isHexDigit
    if digits.isEmpty then false
    else match s.drop digits.length with
      | [] => isAddress6From compressed left []
      | ':' :: r => !r.isEmpty && isAddress6From compressed left r
      | '.' :: _ => 1 ≤ left && isDottedQuad s && (compressed || left == 1)
      | _ => false

/-- Is this an address of the sixth version, without its brackets? -/
def isAddress6 : List Char → Bool
  | ':' :: ':' :: r => isAddress6From true 7 r
  | ':' :: _ => false
  | [] => false
  | [_] => false
  | s => isAddress6From false 8 s

/-- Is this an address of the sixth version in its brackets? -/
def isBracketed (s : List Char) : Bool :=
  s.getLast? == some ']' && isAddress6 (s.drop 1).dropLast

/-! ## Hosts of each kind -/

/-- The bytes of a text in which a percent sign and two digits stand for a byte. -/
def percentDecode : List Char → List UInt8
  | '%' :: a :: b :: r =>
    if isHexDigit a && isHexDigit b then
      (Text.hexValue a * 16 + Text.hexValue b).toUInt8 :: percentDecode r
    else '%'.toNat.toUInt8 :: percentDecode (a :: b :: r)
  | c :: r => String.utf8EncodeChar c ++ percentDecode r
  | [] => []

/-- Is this the host of an address on the web: a domain, or an address of either version? -/
def isWebHost (s : List Char) : Bool :=
  if s.head? == some '[' then isBracketed s
  else match String.fromUTF8? (percentDecode s).toByteArray with
    | none => false
    | some decoded =>
      match domainLabels? decoded.toList with
      | none => false
      | some labels =>
        labels != [[]] && (!endsInNumber labels || isAddress4 labels)

/-- May this character stand in a host that is not taken apart? -/
def isOpaqueChar (c : Char) : Bool :=
  c.toNat != 0 && !"\t\n\r #/:<>?@[\\]^|".toList.contains c

/-- Is this a host that is not taken apart, other than an empty one? -/
def isOpaqueHost (s : List Char) : Bool :=
  if s.head? == some '[' then isBracketed s
  else !s.isEmpty && s.all isOpaqueChar

end FilterQuery.Address
