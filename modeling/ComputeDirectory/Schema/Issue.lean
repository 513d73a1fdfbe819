import ComputeDirectory.Json.Basic
import ComputeDirectory.Time.Timestamp

/-!
# Issues

What is wrong with a piece of input, and where. An issue has a code, the path of member names and
item indices that leads to the value, and a wording.
-/

namespace ComputeDirectory.Schema

/-- A step from a value to a part of it. -/
inductive Place
  | member (name : String)
  | item (index : Nat)
  deriving DecidableEq, Repr

/-- What is wrong with a value. -/
inductive Problem
  | missing
  /-- A stored row is no object; the name says which record was expected. -/
  | notARecord (name : String)
  /-- A part of a request is no object. -/
  | notAnObject
  | notText
  /-- Text that is to be read as something else holds half of a surrogate pair. -/
  | notPlainText
  | notAnInteger
  | unreadableInteger
  | fractionalInteger
  | infiniteInteger
  | oversizedInteger
  | notANumber
  | unreadableNumber
  | unreadableFlag
  | notAList
  | notATimestamp
  | badTimestamp (fault : Timestamp.Fault)
  | badTimestampText (fault : Timestamp.Fault)
  | notAChoice (choices : List String)
  | above (bound : Nat)
  | below (bound : Nat)
  | notAbove (bound : Nat)
  /-- The values of a record do not fit together. -/
  | inconsistent (reason : String)
  /-- A body is no JSON. -/
  | malformedJson
  deriving DecidableEq, Repr

namespace Problem

/-- The code of a problem. -/
def code : Problem → String
  | missing => "missing"
  | notARecord _ => "model_type"
  | notAnObject => "model_attributes_type"
  | notText => "string_type"
  | notPlainText => "string_unicode"
  | notAnInteger => "int_type"
  | unreadableInteger => "int_parsing"
  | fractionalInteger => "int_from_float"
  | infiniteInteger => "finite_number"
  | oversizedInteger => "int_parsing_size"
  | notANumber => "float_type"
  | unreadableNumber => "float_parsing"
  | unreadableFlag => "bool_parsing"
  | notAList => "list_type"
  | notATimestamp => "datetime_type"
  | badTimestamp _ => "datetime_parsing"
  | badTimestampText _ => "datetime_from_date_parsing"
  | notAChoice _ => "enum"
  | above _ => "less_than_equal"
  | below _ => "greater_than_equal"
  | notAbove _ => "greater_than"
  | inconsistent _ => "value_error"
  | malformedJson => "json_invalid"

/-- Quoted choices with commas between them, and a word before the last. -/
def listChoices : List String → String
  | [] => ""
  | [a] => s!"'{a}'"
  | [a, b] => s!"'{a}' or '{b}'"
  | a :: rest => s!"'{a}', {listChoices rest}"

/-- The wording of a problem. -/
def message : Problem → String
  | missing => "Field required"
  | notARecord name => s!"Input should be a valid dictionary or instance of {name}"
  | notAnObject => "Input should be a valid dictionary or object to extract fields from"
  | notText => "Input should be a valid string"
  | notPlainText =>
    "Input should be a valid string, unable to parse raw data as a unicode string"
  | notAnInteger => "Input should be a valid integer"
  | unreadableInteger => "Input should be a valid integer, unable to parse string as an integer"
  | fractionalInteger => "Input should be a valid integer, got a number with a fractional part"
  | infiniteInteger => "Input should be a finite number"
  | oversizedInteger => "Unable to parse input string as an integer, exceeded maximum size"
  | notANumber => "Input should be a valid number"
  | unreadableNumber => "Input should be a valid number, unable to parse string as a number"
  | unreadableFlag => "Input should be a valid boolean, unable to interpret input"
  | notAList => "Input should be a valid list"
  | notATimestamp => "Input should be a valid datetime"
  | badTimestamp fault => s!"Input should be a valid datetime, {fault.message}"
  | badTimestampText fault => s!"Input should be a valid datetime or date, {fault.message}"
  | notAChoice choices => s!"Input should be {listChoices choices}"
  | above bound => s!"Input should be less than or equal to {bound}"
  | below bound => s!"Input should be greater than or equal to {bound}"
  | notAbove bound => s!"Input should be greater than {bound}"
  | inconsistent reason => s!"Value error, {reason}"
  | malformedJson => "JSON decode error"

end Problem

/-- A problem at the end of a path. -/
structure Issue where
  path : List Place
  problem : Problem
  deriving DecidableEq, Repr

/-- The part of a value that a step leads to. -/
def Place.find? : Place → Json → Option Json
  | .member name, value => value.get? name
  | .item index, value => value.item? index

/-- The part of a value at the end of a path. -/
def partAt? (path : List Place) (value : Json) : Option Json :=
  path.foldlM (fun part place => place.find? part) value

/-- What an issue with some input complains about: the part at its path, or the part that lacks a
member. -/
def Issue.subject? (issue : Issue) (input : Json) : Option Json :=
  partAt? (if issue.problem = .missing then issue.path.dropLast else issue.path) input

/-- A step of a path. -/
def Place.toJson : Place → Json
  | .member name => .str name
  | .item index => .int index

/-- Code, path and wording. -/
def Issue.toJson (issue : Issue) : Json :=
  .obj [("type", .str issue.problem.code), ("loc", .arr (issue.path.map Place.toJson)),
    ("msg", .str issue.problem.message)]

end ComputeDirectory.Schema
