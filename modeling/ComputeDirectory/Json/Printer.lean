import ComputeDirectory.Binary64.Shortest
import ComputeDirectory.Json.Basic
import ComputeDirectory.Text.Hex

/-!
# Writing JSON

`render` writes a value without blanks. In text only the quote, the backslash and the characters
below the space are escaped; everything else stands for itself, halves of surrogate pairs included.
JSON has no numbers that are not finite, so those are written as `null`.
-/

namespace ComputeDirectory.Json

/-- How a character stands inside a string. -/
def escapeChar (c : Char) : List Char :=
  if c = '\x22' then ['\x5c', '\x22']
  else if c = '\x5c' then ['\x5c', '\x5c']
  else if c = '\n' then ['\x5c', 'n']
  else if c = '\r' then ['\x5c', 'r']
  else if c = '\t' then ['\x5c', 't']
  else if c = '\x08' then ['\x5c', 'b']
  else if c = '\x0c' then ['\x5c', 'f']
  else if c.toNat < 0x20 then '\x5c' :: 'u' :: Text.hexPadded 4 c.toNat
  else [c]

/-- How a symbol stands inside a string. -/
def escapeSymbol : Symbol → List Symbol
  | .char c => (escapeChar c).map .char
  | .half index => [.half index]

/-- Text between quotes. -/
def renderText (text : Text) : List Symbol :=
  '\x22' :: (text.symbols.flatMap escapeSymbol ++ [Symbol.char '\x22'])

/-- An integer in decimal. -/
def renderInt (n : Int) : List Char :=
  if n < 0 then '-' :: Nat.toDigits 10 n.natAbs else Nat.toDigits 10 n.natAbs

mutual

/-- The symbols of a value. -/
def symbols : Json → List Symbol
  | .null => ['n', 'u', 'l', 'l']
  | .bool true => ['t', 'r', 'u', 'e']
  | .bool false => ['f', 'a', 'l', 's', 'e']
  | .int n => (renderInt n).map .char
  | .float x => if x.isFinite then x.render.toList.map .char else ['n', 'u', 'l', 'l']
  | .str text => renderText text
  | .arr [] => ['[', ']']
  | .arr (item :: items) => '[' :: (symbols item ++ itemSymbols items)
  | .obj [] => ['\x7b', '\x7d']
  | .obj ((name, value) :: members) =>
    '\x7b' :: (renderText name ++ Symbol.char ':' :: (symbols value ++ memberSymbols members))

/-- The remaining items of an array, with its end. -/
def itemSymbols : List Json → List Symbol
  | [] => [']']
  | item :: items => ',' :: (symbols item ++ itemSymbols items)

/-- The remaining members of an object, with its end. -/
def memberSymbols : List (Text × Json) → List Symbol
  | [] => ['\x7d']
  | (name, value) :: members =>
    ',' :: (renderText name ++ Symbol.char ':' :: (symbols value ++ memberSymbols members))

end

/-- The text of a value. -/
def render (value : Json) : Text := ⟨value.symbols⟩

end ComputeDirectory.Json
