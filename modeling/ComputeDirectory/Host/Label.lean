import ComputeDirectory.Host.Direction
import ComputeDirectory.Host.Punycode
import ComputeDirectory.Host.Symbol
import ComputeDirectory.Text.Composition
import ComputeDirectory.Text.Joining
import ComputeDirectory.Text.Quoted
import ComputeDirectory.Text.Script

/-!
# Labels of hosts

A label is a piece of the name of a host between two dots. Its symbols are letters, digits, marks
and hyphens; it is in composed form, begins with no mark, and has no hyphen at an end nor two of
them where coded labels have theirs. A few symbols are bound to a place: between certain letters, or
in the company of a script. When symbols run from right to left, all of the label has to fit
together.

A coded label begins with `xn--`; it is as good as the label that it stands for.

The fault of a label is told to whoever asks for an address with that host, so the checks come in
the order in which clients make them.
-/

namespace ComputeDirectory.Host

open Text (isWithin isMark isPassedOver joinsNext joinsPrevious combiningClass viramaClass)

/-- The code points of a label. -/
abbrev Label := List Nat

/-- Why a host is refused. -/
inductive Fault
  | nameTooLong
  | emptyLabel
  | notComposed
  /-- Hyphens at the third and the fourth place. -/
  | hyphensWithin
  | hyphenAtEnd
  | leadingMark
  /-- A joiner that does not stand between letters to be joined; positions count from one. -/
  | joinerMisplaced (code position : Nat) (label : Label)
  /-- A symbol that may stand elsewhere only. -/
  | symbolMisplaced (code position : Nat) (label : Label)
  | symbolNotAllowed (code position : Nat) (label : Label)
  | directionUnknown (position : Nat) (label : Label)
  /-- The first symbol has no direction that could be that of the label. -/
  | directionUnset (label : Label)
  | directionRightToLeft (position : Nat)
  | directionLeftToRight (position : Nat)
  | digitsMixed
  | directionAtEnd
  /-- A coded label without a code. -/
  | codeMissing
  | codeAtHyphen
  | codeMalformed
  deriving DecidableEq, Repr

/-- A label as text. -/
def Label.text (label : Label) : Text := ⟨label.filterMap Symbol.ofCode?⟩

/-- A code point by its number. -/
def codeName (code : Nat) : String :=
  "U+" ++ String.ofList ((Text.hexPadded 4 code).map Char.toUpper)

/-- The fault in words. -/
def Fault.message : Fault → Text
  | nameTooLong => "Domain too long"
  | emptyLabel => "Empty Label"
  | notComposed => "Label must be in Normalization Form C"
  | hyphensWithin => "Label has disallowed hyphens in 3rd and 4th position"
  | hyphenAtEnd => "Label must not start or end with a hyphen"
  | leadingMark => "Label begins with an illegal combining character"
  | joinerMisplaced code position label =>
    s!"Unknown codepoint adjacent to joiner {codeName code} at position {position} in " ++
      label.text.quoted
  | symbolMisplaced code position label =>
    s!"Codepoint {codeName code} not allowed at position {position} in " ++ label.text.quoted
  | symbolNotAllowed code position label =>
    s!"Codepoint {codeName code} at position {position} of " ++ label.text.quoted ++ " not allowed"
  | directionUnknown position label =>
    "Unknown directionality in label " ++ label.text.quoted ++ s!" at position {position}"
  | directionUnset label =>
    "First codepoint in label " ++ label.text.quoted ++ " must be directionality L, R or AL"
  | directionRightToLeft position =>
    s!"Invalid direction for codepoint at position {position} in a right-to-left label"
  | directionLeftToRight position =>
    s!"Invalid direction for codepoint at position {position} in a left-to-right label"
  | digitsMixed => "Can not mix numeral types in a right-to-left label"
  | directionAtEnd => "Label ends with illegal codepoint directionality"
  | codeMissing => "Malformed A-label, no Punycode eligible content found"
  | codeAtHyphen => "A-label must not end with a hyphen"
  | codeMalformed => "Invalid A-label"

namespace Label

/-! ## Symbols in their places -/

/-- The hyphen. -/
def hyphen : Nat := 0x2d

/-- Checks where hyphens stand. -/
def checkHyphens (label : Label) : Except Fault Unit :=
  if (label.drop 2).take 2 = [hyphen, hyphen] then .error .hyphensWithin
  else if label.head? = some hyphen || label.getLast? = some hyphen then .error .hyphenAtEnd
  else .ok ()

/-- Whether the next letter, in the order given, has a property. -/
def nextLetter (p : Nat → Bool) (codes : List Nat) : Bool :=
  ((codes.dropWhile isPassedOver).head?.map p).getD false

/-- The character that keeps letters from joining. -/
def nonJoiner : Nat := 0x200c

/-- The character that makes letters join. -/
def joiner : Nat := 0x200d

/-- Whether a joiner or its opposite may stand behind symbols, given in reverse, and before others:
both behind a silent consonant, the latter also between letters that would join. -/
def isJoinerInPlace (code : Nat) (before after : List Nat) : Bool :=
  match before.head? with
  | none => false
  | some previous =>
    combiningClass previous = viramaClass ||
      (code = nonJoiner && (direction? previous).isSome && nextLetter joinsNext before &&
        nextLetter joinsPrevious after)

/-- The symbols that are bound to a place, in hexadecimal: the dot between two l of Catalan, the
Greek sign of numerals, the Hebrew signs of numerals, the dot between words of Japanese, and the
digits of Arabic in both forms. -/
def boundSymbols : List (Nat × Nat) :=
  [(0xb7, 0xb7), (0x375, 0x375), (0x5f3, 0x5f4), (0x660, 0x669), (0x6f0, 0x6f9), (0x30fb, 0x30fb)]

/-- Whether a bound symbol is in its place in a label; the symbols before it are in reverse. -/
def isInPlace (label : Label) (code : Nat) (before after : List Nat) : Bool :=
  if code = 0xb7 then before.head? = some 0x6c && after.head? = some 0x6c
  else if code = 0x375 then after.head?.any (isWithin Text.greek)
  else if code = 0x5f3 ∨ code = 0x5f4 then before.head?.any (isWithin Text.hebrew)
  else if code = 0x30fb then label.any fun c => c ≠ 0x30fb && Text.isJapanese c
  else if 0x660 ≤ code ∧ code ≤ 0x669 then !label.any (isWithin [(0x6f0, 0x6f9)])
  else !label.any (isWithin [(0x660, 0x669)])

/-- Checks the symbols of a label one by one. Those before are given in reverse. -/
def checkSymbols (label : Label) (before : List Nat) : List Nat → Except Fault Unit
  | [] => .ok ()
  | code :: rest =>
    let position := before.length + 1
    if isLabelSymbol code then checkSymbols label (code :: before) rest
    else if code = nonJoiner ∨ code = joiner then
      if isJoinerInPlace code before rest then checkSymbols label (code :: before) rest
      else .error (.joinerMisplaced code position label)
    else if isWithin boundSymbols code then
      if isInPlace label code before rest then checkSymbols label (code :: before) rest
      else .error (.symbolMisplaced code position label)
    else .error (.symbolNotAllowed code position label)

/-! ## Directions -/

/-- Finds out how the symbols of a label run. -/
def directions (label : Label) (position : Nat) : List Nat → Except Fault (List Direction)
  | [] => .ok []
  | code :: rest =>
    match direction? code with
    | none => .error (.directionUnknown position label)
    | some d => (directions label (position + 1) rest).map (d :: ·)

/-- Whether a direction leads from right to left. -/
def leadsLeft (d : Direction) : Bool := d = .rightToLeft || d = .arabicLetter

/-- Whether a direction is that of digits. -/
def isDigit (d : Direction) : Bool := d = .arabicDigit || d = .europeanDigit

/-- Checks the symbols of a label from right to left. Digits have to be of one kind; the kind met
before is given. -/
def checkRightToLeft (digits? : Option Direction) (position : Nat) :
    List Direction → Except Fault Unit
  | [] => .ok ()
  | d :: rest =>
    if d = .leftToRight then .error (.directionRightToLeft position)
    else if isDigit d && digits?.any (· ≠ d) then .error .digitsMixed
    else checkRightToLeft (if isDigit d then some d else digits?) (position + 1) rest

/-- Checks the symbols of a label from left to right. -/
def checkLeftToRight (position : Nat) : List Direction → Except Fault Unit
  | [] => .ok ()
  | d :: rest =>
    if leadsLeft d || d = .arabicDigit then .error (.directionLeftToRight position)
    else checkLeftToRight (position + 1) rest

/-- Whether the last symbol, marks apart, has one of some directions. -/
def endsWith (allowed : Direction → Bool) (ds : List Direction) : Bool :=
  (ds.reverse.dropWhile (· = .mark)).head?.any allowed

/-- Checks that the directions of a label fit together. Nothing is asked of a label without symbols
from right to left. -/
def checkDirections (label : Label) : Except Fault Unit := do
  let ds ← directions label 1 label
  if !ds.any fun d => leadsLeft d || d = .arabicDigit then .ok ()
  else if ds.head?.any leadsLeft then
    checkRightToLeft none 1 ds
    if endsWith (fun d => leadsLeft d || isDigit d) ds then .ok () else .error .directionAtEnd
  else if ds.head? = some .leftToRight then
    checkLeftToRight 1 ds
    if endsWith (fun d => d = .leftToRight || d = .europeanDigit) ds then .ok ()
    else .error .directionAtEnd
  else .error (.directionUnset label)

/-! ## Labels -/

/-- Checks a label. -/
def check (label : Label) : Except Fault Unit := do
  if label.isEmpty then .error .emptyLabel
  else if !Text.isComposed label then .error .notComposed
  else
    checkHyphens label
    if label.head?.any isMark then .error .leadingMark
    else
      checkSymbols label [] label
      checkDirections label

/-- What coded labels begin with. -/
def codeMark : List Char := ['x', 'n', '-', '-']

/-- Checks a label in ASCII, which may be coded. -/
def checkPlain (label : List Char) : Except Fault Unit :=
  let label := label.map Char.toLower
  if codeMark.isPrefixOf label then
    let code := label.drop codeMark.length
    if code.isEmpty then .error .codeMissing
    else if code.getLast? = some '-' then .error .codeAtHyphen
    else
      match Punycode.decode? code with
      | none => .error .codeMalformed
      | some label => check label
  else check (label.map Char.toNat)

end Label

end ComputeDirectory.Host
