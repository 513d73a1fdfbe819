import ComputeDirectory.Host.Name
import ComputeDirectory.Text.Hex
import ComputeDirectory.Text.Numeral

/-!
# Hosts as they are written

A host is given by four octets, by eight groups of hexadecimal digits in brackets, or by a name.
What looks like octets or groups has to be right. Names in ASCII are written in small letters, with
percent signs for characters that may not stand in them; names with other characters are coded
(`Host.encode?`).

Clients refuse an address whose host cannot be written, so this decides which addresses make a
request (`Service.Address`).
-/

namespace ComputeDirectory.Host

/-! ## Octets and groups -/

/-- Whether a text is a decimal number from 0 to 255 without needless zeros. -/
def isOctetNumeral (text : List Char) : Bool :=
  !text.isEmpty && text.all Char.isDigit && text.length ≤ 3 &&
    (text = ['0'] || text.head? ≠ some '0') && Text.natOfDigits text ≤ 255

/-- Whether a text is a host of four octets. -/
def isQuad (text : List Char) : Bool :=
  let octets := Text.pieces (· = '.') text
  octets.length = 4 && octets.all isOctetNumeral

/-- Whether a host looks like four octets, which it then has to be: four runs of digits with dots
between them. -/
def looksLikeQuad (host : List Char) : Bool :=
  let runs := Text.pieces (· = '.') host
  runs.length = 4 && runs.all fun run => !run.isEmpty && run.all Char.isDigit

/-- Whether a text is a group of a host of eight groups: one to four hexadecimal digits. -/
def isGroup (text : List Char) : Bool :=
  !text.isEmpty && text.length ≤ 4 && text.all fun c => (Text.hexValue? c).isSome

/-- How many groups a text holds; four octets at the end count as two. -/
def groupCount? (text : List Char) : Option Nat :=
  if text.isEmpty then some 0
  else
    match (Text.pieces (· = ':') text).reverse with
    | [] => some 0
    | final :: others =>
      if !others.all isGroup then none
      else if isGroup final then some (others.length + 1)
      else if isQuad final then some (others.length + 2)
      else none

/-- The texts before and after the first pair of colons, if there is one. -/
def cutAtGap? : List Char → Option (List Char × List Char)
  | ':' :: ':' :: rest => some ([], rest)
  | c :: rest => (cutAtGap? rest).map fun (front, back) => (c :: front, back)
  | [] => none

/-- Whether a text is a host of eight groups; a pair of colons stands for one group of zeros or
more. The name of a zone may follow after a percent sign. -/
def isGroups (text : List Char) : Bool :=
  let groups := text.takeWhile (· ≠ '%')
  let zone := text.drop (groups.length + 1)
  let zoneFits := !text.contains '%' || (!zone.isEmpty && !zone.contains '%')
  zoneFits && !text.contains '/' &&
    match cutAtGap? groups with
    | none => groupCount? groups = some 8
    | some (front, back) =>
      match groupCount? front, groupCount? back with
      | some before, some after => !front.contains '.' && before + after ≤ 7
      | _, _ => false

/-! ## Writing -/

/-- Why a host cannot be written. -/
inductive Malformed
  /-- It looks like four octets and is not. -/
  | quad
  /-- It stands in brackets and is not made of eight groups. -/
  | groups
  /-- It has characters beyond ASCII, and labels that cannot be coded. -/
  | name
  deriving DecidableEq, Repr

/-- Whether a character may stand in a written host as it is. -/
def isHostChar (c : Char) : Bool :=
  c.isAlphanum || "-._~!$&'()*+,;=\"\x60\x7b\x7d%|\\".toList.contains c

/-- A character of a host as it is written: with a percent sign and its number, unless it may stand
as it is. -/
def hostChar (c : Char) : List Char :=
  if isHostChar c then [c] else '%' :: (Text.hexPadded 2 c.toNat).map Char.toUpper

/-- How a host is written in a request; brackets are left out. -/
def write (host : List Char) : Except Malformed (List Char) :=
  if looksLikeQuad host then
    if isQuad host then .ok host else .error .quad
  else if host.head? = some '[' && host.getLast? = some ']' then
    let groups := (host.drop 1).dropLast
    if isGroups groups then .ok groups else .error .groups
  else if host.all fun c => c.toNat < 0x80 then .ok ((host.map Char.toLower).flatMap hostChar)
  else
    match encode? host with
    | some written => .ok written
    | none => .error .name

end ComputeDirectory.Host
