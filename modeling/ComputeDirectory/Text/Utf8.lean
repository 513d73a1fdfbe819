/-!
# Reading octets as UTF-8

`decodePieces` reads any list of octets. An ill-formed sequence is cut into stretches: each longest
stretch that could still have begun a character is one piece without a character. `decode?` refuses
such pieces, and `decodeLossy` puts a replacement character in their place.
-/

namespace ComputeDirectory.Text

/-- What stands for octets that form no character. -/
def replacement : Char := Char.ofNat 0xfffd

/-- What a leading octet announces: how many octets follow, its own bits, and the bounds on the
first octet that follows, which rule out overlong forms, surrogates and codes beyond the last. -/
def leading? (b : Nat) : Option (Nat × Nat × Nat × Nat) :=
  if b < 0x80 then some (0, b, 0, 0)
  else if b < 0xc2 then none
  else if b < 0xe0 then some (1, b - 0xc0, 0x80, 0xbf)
  else if b = 0xe0 then some (2, 0, 0xa0, 0xbf)
  else if b = 0xed then some (2, 0xd, 0x80, 0x9f)
  else if b < 0xf0 then some (2, b - 0xe0, 0x80, 0xbf)
  else if b = 0xf0 then some (3, 0, 0x90, 0xbf)
  else if b < 0xf4 then some (3, b - 0xf0, 0x80, 0xbf)
  else if b = 0xf4 then some (3, 4, 0x80, 0x8f)
  else none

/-- A character that is being read: how many octets it still needs, the bits so far, and the bounds
on the next octet. -/
structure Pending where
  missing : Nat
  bits : Nat
  low : Nat
  high : Nat

/-- A decoder between two octets: the pieces read, the latest first, and what is pending. A piece
without a character stands for an ill-formed stretch. -/
structure Decoder where
  pieces : List (Option Char)
  pending : Option Pending

namespace Decoder

/-- Before the first octet. -/
def start : Decoder := ⟨[], none⟩

/-- Reads an octet where a character may begin. -/
def beginChar (pieces : List (Option Char)) (b : Nat) : Decoder :=
  match leading? b with
  | none => ⟨none :: pieces, none⟩
  | some (0, bits, _, _) => ⟨some (Char.ofNat bits) :: pieces, none⟩
  | some (missing, bits, low, high) => ⟨pieces, some ⟨missing, bits, low, high⟩⟩

/-- Reads an octet. One that does not continue what is pending may begin a character itself. -/
def step (d : Decoder) (octet : UInt8) : Decoder :=
  let b := octet.toNat
  match d.pending with
  | none => beginChar d.pieces b
  | some p =>
    if p.low ≤ b ∧ b ≤ p.high then
      let bits := p.bits * 64 + (b - 0x80)
      if p.missing ≤ 1 then ⟨some (Char.ofNat bits) :: d.pieces, none⟩
      else ⟨d.pieces, some ⟨p.missing - 1, bits, 0x80, 0xbf⟩⟩
    else beginChar (none :: d.pieces) b

/-- The pieces, the earliest first; a character that is still pending is ill-formed. -/
def finish (d : Decoder) : List (Option Char) :=
  (if d.pending.isSome then none :: d.pieces else d.pieces).reverse

end Decoder

/-- The characters that octets spell in UTF-8, and the places of ill-formed stretches. -/
def decodePieces (octets : List UInt8) : List (Option Char) :=
  (octets.foldl Decoder.step .start).finish

/-- The characters that octets spell in UTF-8, if no stretch is ill-formed. -/
def decode? (octets : List UInt8) : Option (List Char) :=
  let pieces := decodePieces octets
  if pieces.all Option.isSome then some (pieces.filterMap id) else none

/-- The characters that octets spell in UTF-8, ill-formed stretches replaced. -/
def decodeLossy (octets : List UInt8) : List Char :=
  (decodePieces octets).map (·.getD replacement)

end ComputeDirectory.Text
