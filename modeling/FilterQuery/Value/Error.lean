/-
Why a text is not a value of the kind that a filter wants.
-/
import FilterQuery.Calendar.Relative

set_option autoImplicit false

namespace FilterQuery

/-- What is wrong with the text of a value. -/
inductive ValueError where
  | notInteger (text : String)
  | notFloat (text : String)
  | notDecimal (text : String)
  | notEmail
  | notUrl
  | notBool (text : String)
  | notChoice (text : String)
  /-- The text has the form of a date, but there is no such date. -/
  | noSuchDate (text : String)
  | notDate (text : String)
  | notDateTime (text : String)
  | notTime (text : String)
  | relativeDate (text : String) (fault : Calendar.RelativeFault)
  /-- What a filter of an application's own says. -/
  | custom (message : String)
deriving DecidableEq, Repr

namespace ValueError

/-- What a text that is no date is no example of, either. -/
def relativeHint : String :=
  "and is not a relative date like \"2d\" or \"2 weeks ago\""

/-- An error in words, for whoever typed the value. -/
def message : ValueError → String
  | notInteger text => s!"\"{text}\" is not a valid integer"
  | notFloat text => s!"could not convert string to float: {text}"
  | notDecimal text => s!"Invalid literal for Decimal: '{text}'"
  | notEmail => "Enter a valid email address."
  | notUrl => "Enter a valid URL."
  | notBool text => s!"{text} is not a valid boolean value"
  | notChoice text => s!"{text} not in available choices"
  | noSuchDate text => s!"Date {text} is out of range"
  | notDate text =>
    s!"Time data \"{text}\" does not match any of the formats \"now\", \"%Y-%m-%d\", {relativeHint}"
  | notDateTime text =>
    s!"Time data \"{text}\" does not match any of the formats \"now\", \"%Y-%m-%d %H:%M:%S\", " ++
      s!"\"%Y-%m-%d %H:%M\", \"%Y-%m-%d %H\", {relativeHint}"
  | notTime text =>
    s!"Time data \"{text}\" does not match any of the formats \"now\" or \"%H:%M:%S\", " ++
      "\"%H:%M\", \"%H\""
  | relativeDate text fault => s!"\"{text}\" is not a valid relative date. {fault.message}"
  | custom message => message

end ValueError

end FilterQuery
