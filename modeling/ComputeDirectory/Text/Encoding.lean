import ComputeDirectory.Text.Basic
import ComputeDirectory.Text.Utf8

/-!
# Encodings of text as octets

Octets that come without the name of their encoding are taken as UTF-8, UTF-16 or UTF-32, in either
order of octets. A mark of the byte order at the front tells; without one the zeros among the first
octets do, since such a text begins with a character of ASCII.

Halves of surrogate pairs that stand alone are read as what they are. Two halves that follow each
other are a pair in UTF-16 only; in UTF-32 a pair has no business, and UTF-8 has no form for halves.
-/

namespace ComputeDirectory.Text

/-- Which octet of a unit comes first. -/
inductive ByteOrder
  | bigEndian
  | littleEndian
  deriving DecidableEq, Repr

/-- How text is spelled in octets. -/
inductive Encoding
  | utf8
  | utf16 (order : ByteOrder)
  | utf32 (order : ByteOrder)
  deriving DecidableEq, Repr

/-- The unit of some octets. -/
def ByteOrder.unit : ByteOrder → List UInt8 → Nat
  | bigEndian, octets => octets.foldl (fun n b => 256 * n + b.toNat) 0
  | littleEndian, octets => octets.foldr (fun b n => 256 * n + b.toNat) 0

namespace Encoding

/-- The encodings that a mark at the front tells, the longer marks first. -/
def marks : List (List UInt8 × Encoding) :=
  [([0, 0, 0xfe, 0xff], utf32 .bigEndian), ([0xff, 0xfe, 0, 0], utf32 .littleEndian),
    ([0xfe, 0xff], utf16 .bigEndian), ([0xff, 0xfe], utf16 .littleEndian),
    ([0xef, 0xbb, 0xbf], utf8)]

/-- The encoding that the zeros among the first octets tell. -/
def ofZeros : List UInt8 → Encoding
  | 0 :: b :: _ :: _ :: _ => if b = 0 then utf32 .bigEndian else utf16 .bigEndian
  | _ :: 0 :: c :: d :: _ =>
    if c = 0 ∧ d = 0 then utf32 .littleEndian else utf16 .littleEndian
  | [0, _] => utf16 .bigEndian
  | [_, 0] => utf16 .littleEndian
  | _ => utf8

/-- The encoding of octets, and the octets without the mark. -/
def guess (octets : List UInt8) : Encoding × List UInt8 :=
  match marks.find? fun mark => mark.1.isPrefixOf octets with
  | some (mark, encoding) => (encoding, octets.drop mark.length)
  | none => (ofZeros octets, octets)

end Encoding

/-- The units of octets, two to a unit, the latest first; a last unit has to be complete. -/
def doubleUnits? (order : ByteOrder) (found : List Nat) : List UInt8 → Option (List Nat)
  | [] => some found
  | a :: b :: rest => doubleUnits? order (order.unit [a, b] :: found) rest
  | _ => none

/-- The units of octets, four to a unit, the latest first; a last unit has to be complete. -/
def quadUnits? (order : ByteOrder) (found : List Nat) : List UInt8 → Option (List Nat)
  | [] => some found
  | a :: b :: c :: d :: rest => quadUnits? order (order.unit [a, b, c, d] :: found) rest
  | _ => none

/-- The character of two halves, if they are the upper and the lower one. -/
def joined? (upper lower : Nat) : Option Char :=
  if 0xd800 ≤ upper ∧ upper < 0xdc00 ∧ 0xdc00 ≤ lower ∧ lower < 0xe000 then
    some (Char.ofNat (0x10000 + (upper - 0xd800) * 0x400 + (lower - 0xdc00)))
  else none

/-- Joins the pairs among units, the latest first, to code points, the earliest first. A lower half
takes the upper one before it, so it does not matter from which end one looks. -/
def joinPairs (found : List Nat) : List Nat → List Nat
  | [] => found
  | [unit] => unit :: found
  | unit :: before :: rest =>
    match joined? before unit with
    | some c => joinPairs (c.toNat :: found) rest
    | none => joinPairs (unit :: found) (before :: rest)

/-- The text of code points, if all are in range. -/
def ofCodes? (codes : List Nat) : Option Text := (codes.mapM Symbol.ofCode?).map Text.mk

/-- The text that octets spell, in the encoding that they tell. -/
def ofOctets? (octets : List UInt8) : Option Text :=
  match Encoding.guess octets with
  | (.utf8, rest) => (decode? rest).map ofChars
  | (.utf16 order, rest) =>
    (doubleUnits? order [] rest).bind fun units => ofCodes? (joinPairs [] units)
  | (.utf32 order, rest) =>
    (quadUnits? order [] rest).bind fun units => ofCodes? units.reverse

end ComputeDirectory.Text
