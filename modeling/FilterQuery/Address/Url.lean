/-
Locators of the web.

A locator is a scheme, an authority and the rest, which is not looked at: once the authority is
sound nothing after it can be wrong. Three of the four schemes that are accepted are those of the
web, which take any number of slashes, and backslashes too, before the authority; the fourth wants
exactly two slashes and takes its host as it is.
-/
import FilterQuery.Address.Host

set_option autoImplicit false

namespace FilterQuery.Address

/-- What kind of scheme a locator has. -/
inductive Scheme where
  | web
  | opaqueHost
deriving DecidableEq

/-- The scheme of this name, given in small letters, if it is accepted. -/
def Scheme.ofName? (name : List Char) : Option Scheme :=
  if ["http", "https", "ftp"].any (·.toList == name) then some .web
  else if "ftps".toList == name then some .opaqueHost
  else none

namespace Scheme

/-- Is this one of the characters that end an authority? -/
def endsAuthority (scheme : Scheme) (c : Char) : Bool :=
  c == '/' || c == '?' || c == '#' || (scheme == .web && c == '\\')

/-- Is this a host as the scheme wants it? -/
def isHost (scheme : Scheme) (s : List Char) : Bool :=
  match scheme with
  | web => isWebHost s
  | opaqueHost => isOpaqueHost s

end Scheme

/-- Is this a control character or a space? They are dropped at both ends of a locator. -/
def isControlOrSpace (c : Char) : Bool :=
  c.toNat ≤ 0x20

/-- Is this a tab or the end of a line? They are dropped wherever they stand. -/
def isTabOrNewline (c : Char) : Bool :=
  c == '\t' || c == '\n' || c == '\r'

/-- The characters of a locator that count. -/
def significant (s : List Char) : List Char :=
  (((s.dropWhile isControlOrSpace).reverse.dropWhile isControlOrSpace).reverse).filter
    (!isTabOrNewline ·)

/-- May this character stand in the name of a scheme? -/
def isSchemeChar (c : Char) : Bool :=
  c.isAlphanum || c == '+' || c == '-' || c == '.'

/-- Takes an accepted scheme off a locator, with the colon and the slashes after it. -/
def takeScheme? (s : List Char) : Option (Scheme × List Char) :=
  match s.dropWhile isSchemeChar with
  | ':' :: r =>
    match Scheme.ofName? ((s.takeWhile isSchemeChar).map Char.toLower), r with
    | some .web, r => some (.web, r.dropWhile fun c => c == '/' || c == '\\')
    | some .opaqueHost, '/' :: '/' :: r => some (.opaqueHost, r)
    | _, _ => none
  | _ => none

/-- An authority without its user, which ends at the last `@`. -/
def dropUser (authority : List Char) : List Char :=
  (authority.reverse.takeWhile (· != '@')).reverse

/-- Splits a host from its port at the first colon outside brackets. -/
def splitPort (inBrackets : Bool) : List Char → List Char × Option (List Char)
  | [] => ([], none)
  | c :: r =>
    if c == ':' && !inBrackets then ([], some r)
    else
      let (host, port) := splitPort (c == '[' || (inBrackets && c != ']')) r
      (c :: host, port)

/-- Is this the number of a port, or none at all? A backslash may end it. -/
def isPort (s : List Char) : Bool :=
  let digits := s.takeWhile (· != '\\')
  digits.all Char.isDigit && ofDigitsInBase 10 digits ≤ 65535

/-- Is this a sound authority: perhaps a user, then a host, then perhaps a port? -/
def isAuthority (scheme : Scheme) (authority : List Char) : Bool :=
  let (host, port) := splitPort false (dropUser authority)
  scheme.isHost host && port.all isPort

/-- Is this a locator with a host, of one of the accepted schemes? -/
def isUrl (s : List Char) : Bool :=
  match takeScheme? (significant s) with
  | none => false
  | some (scheme, r) => isAuthority scheme (r.takeWhile (!scheme.endsAuthority ·))

end FilterQuery.Address
