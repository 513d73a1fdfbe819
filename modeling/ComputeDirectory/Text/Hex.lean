/-!
# Hexadecimal text

Digits, fixed-width numerals, and octets written as pairs of lowercase digits.
-/

namespace ComputeDirectory.Text

/-- The value of a hexadecimal digit, in either case. -/
def hexValue? (c : Char) : Option Nat :=
  if '0' ≤ c ∧ c ≤ '9' then some (c.toNat - '0'.toNat)
  else if 'a' ≤ c ∧ c ≤ 'f' then some (c.toNat - 'a'.toNat + 10)
  else if 'A' ≤ c ∧ c ≤ 'F' then some (c.toNat - 'A'.toNat + 10)
  else none

/-- A lowercase hexadecimal digit. -/
def isLowerHex (c : Char) : Bool := ('0' ≤ c ∧ c ≤ '9') ∨ ('a' ≤ c ∧ c ≤ 'f')

/-- The lowercase digit of a value below sixteen. -/
def hexDigit (n : Nat) : Char := if n < 10 then Char.ofNat (0x30 + n) else Char.ofNat (0x57 + n)

/-- A number in lowercase hexadecimal, filled with zeros up to a width. -/
def hexPadded (width n : Nat) : List Char :=
  let digits := Nat.toDigits 16 n
  List.replicate (width - digits.length) '0' ++ digits

/-- Octets as pairs of lowercase digits. -/
def hexOfOctets (octets : List UInt8) : List Char :=
  octets.flatMap fun b => [hexDigit (b.toNat / 16), hexDigit (b.toNat % 16)]

/-- The octets that pairs of hexadecimal digits stand for, if all characters are digits. -/
def octetsOfHex? : List Char → Option (List UInt8)
  | [] => some []
  | [_] => none
  | a :: b :: rest =>
    match hexValue? a, hexValue? b, octetsOfHex? rest with
    | some x, some y, some octets => some (UInt8.ofNat (16 * x + y) :: octets)
    | _, _, _ => none

theorem hexValue?_isSome_of_isLowerHex {c : Char} (h : isLowerHex c = true) :
    (hexValue? c).isSome = true := by
  simp only [isLowerHex, Bool.decide_or, Bool.or_eq_true, decide_eq_true_eq] at h
  rcases h with h | h
  · simp [hexValue?, h]
  · by_cases h0 : '0' ≤ c ∧ c ≤ '9'
    · simp [hexValue?, h0]
    · simp [hexValue?, h0, h]

/-- Lowercase hexadecimal text of even length always decodes, two characters to an octet. -/
theorem octetsOfHex?_eq_some : ∀ {text : List Char}, text.all isLowerHex → text.length % 2 = 0 →
    ∃ octets, octetsOfHex? text = some octets ∧ 2 * octets.length = text.length
  | [], _, _ => ⟨[], rfl, rfl⟩
  | [_], _, h => by simp at h
  | a :: b :: rest, hall, hlen => by
    simp only [List.all_cons, Bool.and_eq_true] at hall
    obtain ⟨x, hx⟩ := Option.isSome_iff_exists.1 (hexValue?_isSome_of_isLowerHex hall.1)
    obtain ⟨y, hy⟩ := Option.isSome_iff_exists.1 (hexValue?_isSome_of_isLowerHex hall.2.1)
    obtain ⟨octets, ho, hl⟩ := octetsOfHex?_eq_some hall.2.2
      (by simp only [List.length_cons] at hlen; omega)
    refine ⟨UInt8.ofNat (16 * x + y) :: octets, by simp [octetsOfHex?, hx, hy, ho], ?_⟩
    simp only [List.length_cons]
    omega

end ComputeDirectory.Text
