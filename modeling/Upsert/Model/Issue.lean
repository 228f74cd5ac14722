import Upsert.Choice.Basic
import Upsert.Model.Basic

/-!
# Issues found by validation

Validating a record collects issues, each at a location: the path of field names and list
positions that leads from the record to the offending input. Every kind of issue has a code and
a sentence; the sentence of a failed rule of the record itself starts with `Value error, `.
-/

namespace Upsert

/-- A step of a location: a field or key name, or a position in a list. -/
inductive LocPart where
  | name (t : Text)
  | index (i : Nat)

/-- What is wrong with an input. -/
inductive IssueKind where
  | missing
  | extraForbidden
  | stringType
  | stringUnicode
  | dictType
  | listType
  | boolType
  | boolParsing
  | floatType
  | floatParsing
  | intType
  | intParsing
  | intFromFloat
  | intParsingSize
  | finiteNumber
  | greaterThanEqual
  /-- Not a member of the choice. -/
  | notMember (c : Choice)
  /-- Neither a table nor a record of the kind. -/
  | recordType (k : RecordKind)
  /-- A rule of the record failed with this text. -/
  | rule (message : Text)
  /-- Iterating the input failed with this error. -/
  | iteration (error : Text)

/-- One issue: where and what. -/
structure Issue where
  loc : List LocPart
  kind : IssueKind

namespace IssueKind

/-- `'a', 'b' or 'c'`. -/
def alternatives (ts : List Text) : Text :=
  match ts.reverse with
  | [] => Text.empty
  | [t] => t
  | last :: rest => Text.join ", " rest.reverse ++ " or " ++ last

/-- The code of an issue kind. -/
def code : IssueKind → Text
  | .missing => "missing"
  | .extraForbidden => "extra_forbidden"
  | .stringType => "string_type"
  | .stringUnicode => "string_unicode"
  | .dictType => "dict_type"
  | .listType => "list_type"
  | .boolType => "bool_type"
  | .boolParsing => "bool_parsing"
  | .floatType => "float_type"
  | .floatParsing => "float_parsing"
  | .intType => "int_type"
  | .intParsing => "int_parsing"
  | .intFromFloat => "int_from_float"
  | .intParsingSize => "int_parsing_size"
  | .finiteNumber => "finite_number"
  | .greaterThanEqual => "greater_than_equal"
  | .notMember _ => "enum"
  | .recordType _ => "model_type"
  | .rule _ => "value_error"
  | .iteration _ => "iteration_error"

/-- The sentence of an issue kind. -/
def message : IssueKind → Text
  | .missing => "Field required"
  | .extraForbidden => "Extra inputs are not permitted"
  | .stringType => "Input should be a valid string"
  | .stringUnicode => "Input should be a valid string, unable to parse raw data as a unicode string"
  | .dictType => "Input should be a valid dictionary"
  | .listType => "Input should be a valid list"
  | .boolType => "Input should be a valid boolean"
  | .boolParsing => "Input should be a valid boolean, unable to interpret input"
  | .floatType => "Input should be a valid number"
  | .floatParsing => "Input should be a valid number, unable to parse string as a number"
  | .intType => "Input should be a valid integer"
  | .intParsing => "Input should be a valid integer, unable to parse string as an integer"
  | .intFromFloat => "Input should be a valid integer, got a number with a fractional part"
  | .intParsingSize => "Unable to parse input string as an integer, exceeded maximum size"
  | .finiteNumber => "Input should be a finite number"
  | .greaterThanEqual => "Input should be greater than or equal to 0"
  | .notMember c =>
    "Input should be " ++ alternatives (c.members.map fun m => "'" ++ m.value ++ "'")
  | .recordType k => "Input should be a valid dictionary or instance of " ++ k.title
  | .rule m => "Value error, " ++ m
  | .iteration e => "Error iterating over object, error: " ++ e

end IssueKind

/-- A location as its parts joined by dots. -/
def LocPart.joined (loc : List LocPart) : Text :=
  Text.join "." (loc.map fun | .name t => t | .index i => Text.ofNat i)

end Upsert
