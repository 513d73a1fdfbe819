import ComputeDirectory.Json.Printer
import ComputeDirectory.Text.Quoted

/-!
# Values in messages

How a value is shown inside a message. Text by itself stands as it is; inside a list or an object it
is quoted. Several values are shown between round brackets, and no value at all leaves the message
empty.
-/

namespace ComputeDirectory.Json

mutual

/-- The characters of a value as a literal. -/
def literal : Json → List Char
  | .null => ['N', 'o', 'n', 'e']
  | .bool true => ['T', 'r', 'u', 'e']
  | .bool false => ['F', 'a', 'l', 's', 'e']
  | .int n => renderInt n
  | .float x => x.render.toList
  | .str text => text.quotedChars
  | .arr items => '[' :: (itemLiterals items ++ [']'])
  | .obj members => '\x7b' :: (memberLiterals members ++ ['\x7d'])

/-- Literals with commas between them. -/
def itemLiterals : List Json → List Char
  | [] => []
  | [item] => literal item
  | item :: items => literal item ++ ',' :: ' ' :: itemLiterals items

/-- Names and literals, with commas between them. -/
def memberLiterals : List (Text × Json) → List Char
  | [] => []
  | [(name, value)] => name.quotedChars ++ ':' :: ' ' :: literal value
  | (name, value) :: members =>
    name.quotedChars ++ ':' :: ' ' :: (literal value ++ ',' :: ' ' :: memberLiterals members)

end

/-- A value by itself: text as it is, anything else as a literal. -/
def wording : Json → Text
  | .str text => text
  | value => .ofChars (literal value)

/-- The details of a message. -/
def describe : List Json → Text
  | [] => ""
  | [value] => wording value
  | values => .ofChars ('(' :: (itemLiterals values ++ [')']))

end ComputeDirectory.Json
