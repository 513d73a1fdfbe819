import ComputeDirectory.Json.Basic
import ComputeDirectory.Text.Encoding
import ComputeDirectory.Text.Hex
import ComputeDirectory.Text.Numeral

/-!
# Reading JSON

`read` takes the whole text and says where it stops being JSON. Beyond the standard it accepts the
words `NaN`, `Infinity` and `-Infinity` as numbers, and a number out of range is an infinity.

A fault is recorded by the number of symbols that remain where it shows: at the symbol that cannot
stand there, at the opening quote of a string without end, at the backslash of an unknown escape, at
the `u` of a bad code. Integers of more than `maxDigits` digits are refused as a whole, and so are
arrays and objects inside more others than the caller allows.
-/

namespace ComputeDirectory.Json

/-- Why a text is not read. -/
inductive ReadFault
  /-- The text is no JSON from this position on. -/
  | malformed (position : Nat)
  /-- An integer has more digits than are read. -/
  | tooManyDigits
  /-- Arrays and objects stand too deep inside each other. -/
  | tooDeep
  deriving DecidableEq, Repr

/-- A fault while reading; a position is still the number of symbols that remain. -/
abbrev Scan (α : Type) := Except ReadFault (α × List Symbol)

/-- The text cannot go on like this. -/
def unexpected {α : Type} (text : List Symbol) : Scan α := .error (.malformed text.length)

/-- Drops blanks: space, tab and line ends. -/
def skipBlanks : List Symbol → List Symbol
  | .char c :: rest =>
    if c = ' ' ∨ c = '\t' ∨ c = '\n' ∨ c = '\r' then skipBlanks rest else .char c :: rest
  | text => text

/-! ## Strings -/

/-- The value of a symbol that is a hexadecimal digit. -/
def hexValue? : Symbol → Option Nat
  | .char c => Text.hexValue? c
  | .half _ => none

/-- The value of four hexadecimal digits. -/
def code? (a b c d : Symbol) : Option Nat :=
  match hexValue? a, hexValue? b, hexValue? c, hexValue? d with
  | some w, some x, some y, some z => some (((w * 16 + x) * 16 + y) * 16 + z)
  | _, _, _, _ => none

/-- The character of an escape other than a code. -/
def simpleEscape? (s : Symbol) : Option Char :=
  if s = '\x22' then some '\x22'
  else if s = '\x5c' then some '\x5c'
  else if s = '/' then some '/'
  else if s = 'b' then some '\x08'
  else if s = 'f' then some '\x0c'
  else if s = 'n' then some '\n'
  else if s = 'r' then some '\r'
  else if s = 't' then some '\t'
  else none

/-- What was read of a string: its symbols, the latest first, and the latest one by its code if it
was escaped by it. Two escapes in a row may be the halves of one character. -/
structure StringPart where
  symbols : List Symbol
  escaped : Option Nat

/-- Adds a symbol that was not escaped by its code. -/
def StringPart.add (part : StringPart) (s : Symbol) : StringPart := ⟨s :: part.symbols, none⟩

/-- Adds an escaped code; with the half before it, it may make a character. -/
def StringPart.addCode (part : StringPart) (code : Nat) : StringPart :=
  match part.escaped.bind fun upper => Text.joined? upper code with
  | some c => ⟨c :: part.symbols.drop 1, none⟩
  | none => ⟨(Symbol.ofCode? code).toList ++ part.symbols, some code⟩

/-- Reads a string after its opening quote; `opening` is the text from that quote on. An escaped
code needs four digits and something after them. -/
def stringBody (opening : List Symbol) (part : StringPart) : List Symbol → Scan Text
  | [] => unexpected opening
  | .char '\x22' :: rest => .ok (⟨part.symbols.reverse⟩, rest)
  | [.char '\x5c'] => unexpected opening
  | .char '\x5c' :: .char 'u' :: w :: x :: y :: z :: next :: more =>
    match code? w x y z with
    | some code => stringBody opening (part.addCode code) (next :: more)
    | none => unexpected (.char 'u' :: w :: x :: y :: z :: next :: more)
  | .char '\x5c' :: e :: more =>
    match simpleEscape? e with
    | some d => stringBody opening (part.add d) more
    | none => unexpected (if e = 'u' then e :: more else .char '\x5c' :: e :: more)
  | s :: rest =>
    if s.code < 0x20 then unexpected (s :: rest) else stringBody opening (part.add s) rest

/-- Reads a string, given the text from its opening quote on and the text after that quote. -/
def string (opening text : List Symbol) : Scan Text := stringBody opening ⟨[], none⟩ text

/-! ## Numbers and words -/

/-- The digits at the front, and what follows them. -/
def digits (text : List Symbol) : List Char × List Symbol :=
  let isDigit (s : Symbol) : Bool := s.satisfies Char.isDigit
  ((text.takeWhile isDigit).filterMap Symbol.char?, text.dropWhile isDigit)

/-- Splits off the sign of an exponent: whether it is a minus, and the rest. -/
def exponentSign : List Symbol → Bool × List Symbol
  | .char '-' :: rest => (true, rest)
  | .char '+' :: rest => (false, rest)
  | text => (false, text)

/-- The exponent of a number, if a letter and digits are there; otherwise nothing is taken. -/
def exponentPart? : List Symbol → Option (Int × List Symbol)
  | s :: rest =>
    if s = 'e' ∨ s = 'E' then
      let (negative, body) := exponentSign rest
      let (found, left) := digits body
      if found.isEmpty then none else some (Text.intOfDigits negative found, left)
    else none
  | [] => none

/-- The fraction of a number, if a point and digits are there; otherwise nothing is taken. -/
def fractionPart? : List Symbol → Option (List Char × List Symbol)
  | .char '.' :: rest =>
    let (found, left) := digits rest
    if found.isEmpty then none else some (found, left)
  | _ => none

/-- The digits before the point: a zero alone, or a run that does not begin with zero. -/
def wholePart? : List Symbol → Option (List Char × List Symbol)
  | .char '0' :: rest => some (['0'], rest)
  | text =>
    let (found, left) := digits text
    if found.isEmpty then none else some (found, left)

/-- Reads a number. -/
def number (text : List Symbol) : Scan Json :=
  let (negative, body) :=
    match text with
    | .char '-' :: rest => (true, rest)
    | _ => (false, text)
  match wholePart? body with
  | none => unexpected text
  | some (whole, rest) =>
    let fraction := fractionPart? rest
    let afterFraction := (fraction.map Prod.snd).getD rest
    let exponent := exponentPart? afterFraction
    let left := (exponent.map Prod.snd).getD afterFraction
    if fraction.isNone && exponent.isNone then
      if maxDigits < whole.length then .error .tooManyDigits
      else .ok (.int (Text.intOfDigits negative whole), left)
    else
      let part := (fraction.map Prod.fst).getD []
      let shift := (exponent.map Prod.fst).getD 0
      .ok (.float (Binary64.ofDecimal negative (Text.natOfDigits (whole ++ part))
        (shift - part.length)), left)

/-- The words that are values by themselves. -/
def words : List (Text × Json) :=
  [("null", .null), ("true", .bool true), ("false", .bool false), ("NaN", .float .nan),
    ("Infinity", .float (.infinity false)), ("-Infinity", .float (.infinity true))]

/-- The value of the word at the front, and what follows it. -/
def word? (text : List Symbol) : Option (Json × List Symbol) :=
  (words.find? fun w => w.1.symbols.isPrefixOf text).map fun w => (w.2, text.drop w.1.length)

/-! ## Values -/

mutual

/-- Reads a value that may hold arrays and objects to a depth. Every call takes a symbol before the
next but one, so twice the length of the text is fuel enough. -/
def value : Nat → Nat → List Symbol → Scan Json
  | 0, _, text => unexpected text
  | fuel + 1, depth, text =>
    match text with
    | .char '\x22' :: rest => (string text rest).map fun (found, left) => (.str found, left)
    | .char '[' :: rest =>
      if depth = 0 then .error .tooDeep
      else
        match skipBlanks rest with
        | .char ']' :: left => .ok (.arr [], left)
        | start => items fuel (depth - 1) [] start
    | .char '\x7b' :: rest =>
      if depth = 0 then .error .tooDeep
      else
        match skipBlanks rest with
        | .char '\x7d' :: left => .ok (.obj [], left)
        | start => members fuel (depth - 1) [] start
    | _ =>
      match word? text with
      | some found => .ok found
      | none => number text

/-- Reads the items of an array from the next one on, given those before it, the latest first. -/
def items : Nat → Nat → List Json → List Symbol → Scan Json
  | 0, _, _, text => unexpected text
  | fuel + 1, depth, found, text =>
    match value fuel depth text with
    | .error e => .error e
    | .ok (item, rest) =>
      match skipBlanks rest with
      | .char ']' :: left => .ok (.arr (item :: found).reverse, left)
      | .char ',' :: more => items fuel depth (item :: found) (skipBlanks more)
      | left => unexpected left

/-- Reads the members of an object from the next one on, given those before it. -/
def members : Nat → Nat → List (Text × Json) → List Symbol → Scan Json
  | 0, _, _, text => unexpected text
  | fuel + 1, depth, found, text =>
    match text with
    | .char '\x22' :: rest =>
      match string text rest with
      | .error e => .error e
      | .ok (name, afterName) =>
        match skipBlanks afterName with
        | .char ':' :: afterColon =>
          match value fuel depth (skipBlanks afterColon) with
          | .error e => .error e
          | .ok (item, afterItem) =>
            match skipBlanks afterItem with
            | .char '\x7d' :: left => .ok (.obj (setMember name item found), left)
            | .char ',' :: more => members fuel depth (setMember name item found) (skipBlanks more)
            | left => unexpected left
        | left => unexpected left
    | _ => unexpected text

end

/-- Turns the count of remaining symbols of a fault into a position. -/
def ReadFault.locate (total : Nat) : ReadFault → ReadFault
  | .malformed remaining => .malformed (total - remaining)
  | .tooManyDigits => .tooManyDigits
  | .tooDeep => .tooDeep

/-- Reads a text that holds one value, with blanks around it; arrays and objects may stand inside
each other to a depth. -/
def read (depth : Nat) (text : Text) : Except ReadFault Json :=
  let total := text.length
  match value (2 * total + 2) depth (skipBlanks text.symbols) with
  | .error fault => .error (fault.locate total)
  | .ok (found, rest) =>
    match skipBlanks rest with
    | [] => .ok found
    | left => .error (.malformed (total - left.length))

end ComputeDirectory.Json
