import ComputeDirectory.Text.Basic
import ComputeDirectory.Text.Hex
import ComputeDirectory.Text.Visible

/-!
# Quoted text

How a piece of foreign text is shown inside a message: between single quotes, or between double
quotes when it holds a single quote and no double one. The quote in use and the backslash are
escaped by a backslash, line ends and tabs have their own escapes, and every other symbol without a
visible form is written by its code. So what is quoted is always plain.
-/

namespace ComputeDirectory.Text

/-- The quote to use: double when the text holds a single quote and no double one. -/
def quoteFor (t : Text) : Char :=
  if t.symbols.contains '\x27' && !t.symbols.contains '\x22' then '\x22' else '\x27'

/-- The escape by code: two, four or eight hexadecimal digits. -/
def codeEscape (code : Nat) : List Char :=
  if code < 0x100 then '\x5c' :: 'x' :: hexPadded 2 code
  else if code < 0x10000 then '\x5c' :: 'u' :: hexPadded 4 code
  else '\x5c' :: 'U' :: hexPadded 8 code

/-- How a character stands between quotes. -/
def quotedChar (quote c : Char) : List Char :=
  if c = quote ∨ c = '\x5c' then ['\x5c', c]
  else if c = '\n' then ['\x5c', 'n']
  else if c = '\r' then ['\x5c', 'r']
  else if c = '\t' then ['\x5c', 't']
  else if isVisible c then [c]
  else codeEscape c.toNat

/-- How a symbol stands between quotes. -/
def quotedSymbol (quote : Char) : Symbol → List Char
  | .char c => quotedChar quote c
  | .half index => codeEscape (Symbol.half index).code

/-- The characters of a text between quotes. -/
def quotedChars (t : Text) : List Char :=
  let quote := quoteFor t
  quote :: (t.symbols.flatMap (quotedSymbol quote) ++ [quote])

/-- A text between quotes. -/
def quoted (t : Text) : Text := ofChars t.quotedChars

end ComputeDirectory.Text
