/-!
# Validation issues

A field that does not have the value it should have gives an issue: the place of the field and the
rule that it breaks. A rule has a code, for programs, and a message, for people.

Each rule is one constructor with the values that its message quotes, so that code and message are
functions of the rule and a new rule cannot be told without both. A report is a line for each
issue (`report`; `format_pydantic_error` of the program), in which a field may stand under the
name by which the user set it: an option of the command line or a variable of the environment.
-/

namespace ContractBuild.Validation

/-- One step on the way to a value: a field name or the index of an item. -/
inductive Place where
  | field (name : String)
  | index (i : Int)
  deriving DecidableEq, Repr

/-- The text of a place in a message. -/
def Place.text : Place → String
  | field name => name
  | index i => toString i

/-- A rule that a value can break. -/
inductive Rule where
  | required
  | noSuchField
  | frozen
  | text
  | textEncoding
  | textTooShort
  | path
  | boolean
  | booleanText
  | integer
  | integerText
  | integerSize
  | wholeNumber
  | finiteNumber
  | atLeast (n : Int)
  | atMost (n : Int)
  | sequence
  | tooFewItems
  | dictionary
  | bytes
  /-- The value is none of the given names. -/
  | oneOf (names : List String)
  /-- The value is no record of the given type. -/
  | record (typeName : String)
  /-- The value has no fields at all. -/
  | fields
  /-- The field that tells variants apart is missing. -/
  | tagMissing (tagField : String)
  /-- The field that tells variants apart names none of them. -/
  | tagUnknown (tagField tag : String) (expected : List String)
  deriving DecidableEq, Repr

namespace Rule

/-- A name between single quotes, as rules show it. -/
def quote (name : String) : String := "'" ++ name ++ "'"

/-- The names of an enumeration, quoted, the last one after "or". -/
def alternatives (names : List String) : String :=
  match names.reverse with
  | [] => ""
  | [name] => quote name
  | last :: others => ", ".intercalate (others.reverse.map quote) ++ " or " ++ quote last

def code : Rule → String
  | required => "missing"
  | noSuchField => "extra_forbidden"
  | frozen => "frozen_instance"
  | text => "string_type"
  | textEncoding => "string_unicode"
  | textTooShort => "string_too_short"
  | path => "path_type"
  | boolean => "bool_type"
  | booleanText => "bool_parsing"
  | integer => "int_type"
  | integerText => "int_parsing"
  | integerSize => "int_parsing_size"
  | wholeNumber => "int_from_float"
  | finiteNumber => "finite_number"
  | atLeast _ => "greater_than_equal"
  | atMost _ => "less_than_equal"
  | sequence => "tuple_type"
  | tooFewItems => "too_short"
  | dictionary => "dict_type"
  | bytes => "bytes_type"
  | oneOf _ => "enum"
  | record _ => "model_type"
  | fields => "model_attributes_type"
  | tagMissing _ => "union_tag_not_found"
  | tagUnknown _ _ _ => "union_tag_invalid"

def message : Rule → String
  | required => "Field required"
  | noSuchField => "Extra inputs are not permitted"
  | frozen => "Instance is frozen"
  | text => "Input should be a valid string"
  | textEncoding => "Input should be a valid string, unable to parse raw data as a unicode string"
  | textTooShort => "String should have at least 1 character"
  | path => "Input is not a valid path for <class 'pathlib.Path'>"
  | boolean => "Input should be a valid boolean"
  | booleanText => "Input should be a valid boolean, unable to interpret input"
  | integer => "Input should be a valid integer"
  | integerText => "Input should be a valid integer, unable to parse string as an integer"
  | integerSize => "Unable to parse input string as an integer, exceeded maximum size"
  | wholeNumber => "Input should be a valid integer, got a number with a fractional part"
  | finiteNumber => "Input should be a finite number"
  | atLeast n => "Input should be greater than or equal to " ++ toString n
  | atMost n => "Input should be less than or equal to " ++ toString n
  | sequence => "Input should be a valid tuple"
  | tooFewItems => "Tuple should have at least 1 item after validation, not 0"
  | dictionary => "Input should be a valid dictionary"
  | bytes => "Input should be a valid bytes"
  | oneOf names => "Input should be " ++ alternatives names
  | record typeName => "Input should be a valid dictionary or instance of " ++ typeName
  | fields => "Input should be a valid dictionary or object to extract fields from"
  | tagMissing tagField => "Unable to extract tag using discriminator " ++ quote tagField
  | tagUnknown tagField tag expected =>
    "Input tag '" ++ tag ++ "' found using " ++ quote tagField
      ++ " does not match any of the expected tags: " ++ ", ".intercalate (expected.map quote)

end Rule

/-- A broken rule and the place of the value that breaks it. -/
structure Issue where
  place : List Place
  rule : Rule
  deriving DecidableEq, Repr

namespace Issue

/-- The place of an issue with points between its steps. -/
def placeText (i : Issue) : String := ".".intercalate (i.place.map Place.text)

end Issue

/-- The report on broken rules: a headline and a line for each issue. A place for which `names`
knows the name that a user set it by is shown under that name. -/
def report (names : List (String × String)) (issues : List Issue) : String :=
  let line (i : Issue) : String :=
    "  - " ++ ((names.lookup i.placeText).getD i.placeText) ++ ": " ++ i.rule.message
  "\n".intercalate ("Validation failed:" :: issues.map line)

end ContractBuild.Validation
