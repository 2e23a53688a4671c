import Retouch.Text.Basic

/-!
# Issues with data

What is wrong with data from outside, and where: the way from the whole to the faulty part.
-/

namespace Retouch

/-- A step into data. -/
inductive Step where
  | key (name : String)
  | index (i : Nat)
  deriving DecidableEq

/-- What is wrong with a part of some data. -/
inductive Issue.Cause where
  | missing
  | stringType
  | stringTooShort
  | stringUnicode
  | intType
  | intParsing
  | intParsingSize
  | intFromFraction
  | notFinite
  | tooSmall
  | boolType
  | boolParsing
  | listType
  | objectType
  | attributesType
  | literal
  | enumeration
  | unknownTag
  | noTag
  | invalidJson
  deriving DecidableEq

/-- The code under which a cause is reported. -/
def Issue.Cause.code : Issue.Cause → String
  | .missing => "missing"
  | .stringType => "string_type"
  | .stringTooShort => "string_too_short"
  | .stringUnicode => "string_unicode"
  | .intType => "int_type"
  | .intParsing => "int_parsing"
  | .intParsingSize => "int_parsing_size"
  | .intFromFraction => "int_from_float"
  | .notFinite => "finite_number"
  | .tooSmall => "greater_than_equal"
  | .boolType => "bool_type"
  | .boolParsing => "bool_parsing"
  | .listType => "list_type"
  | .objectType => "model_type"
  | .attributesType => "model_attributes_type"
  | .literal => "literal_error"
  | .enumeration => "enum"
  | .unknownTag => "union_tag_invalid"
  | .noTag => "union_tag_not_found"
  | .invalidJson => "json_invalid"

/-- A fault of data and the way to it. -/
structure Issue where
  cause : Issue.Cause
  location : List Step
  deriving DecidableEq

/-- The same issue in data that stands one step inside other data. -/
def Issue.within (step : Step) (issue : Issue) : Issue :=
  { issue with location := step :: issue.location }

end Retouch
