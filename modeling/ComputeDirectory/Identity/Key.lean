import ComputeDirectory.Text.Basic
import ComputeDirectory.Text.Hex

/-!
# Keys

An identity is named by its public key: exactly 64 lowercase hexadecimal digits, 32 octets. A
signature is written as 128 such digits.
-/

namespace ComputeDirectory.Identity

/-- Whether a text is a number of lowercase hexadecimal digits. -/
def isHexOfLength (count : Nat) (text : Text) : Bool :=
  text.length = count ∧ text.symbols.all fun s => s.satisfies Text.isLowerHex

/-- Whether a text is a well-formed key. -/
def isKey (text : Text) : Bool := isHexOfLength 64 text

/-- Whether a text is a well-formed signature. -/
def isSignature (text : Text) : Bool := isHexOfLength 128 text

/-- The octets that a text of hexadecimal digits stands for. -/
def octets? (text : Text) : Option (List UInt8) := text.chars?.bind Text.octetsOfHex?

private theorem map_char_of_all {p : Char → Bool} {symbols : List Symbol}
    (h : (symbols.all fun s => s.satisfies p) = true) :
    ∃ chars : List Char, symbols = chars.map .char ∧ chars.all p = true := by
  induction symbols with
  | nil => exact ⟨[], rfl, rfl⟩
  | cons s rest ih =>
    rw [List.all_cons, Bool.and_eq_true] at h
    obtain ⟨chars, hrest, hall⟩ := ih h.2
    cases s with
    | char c =>
      exact ⟨c :: chars, by rw [hrest, List.map_cons], by simpa [hall, Symbol.satisfies] using h.1⟩
    | half index => simp [Symbol.satisfies] at h

/-- Hexadecimal text of even length always decodes, two digits to an octet. -/
theorem octets?_of_isHexOfLength {count : Nat} {text : Text}
    (h : isHexOfLength (2 * count) text = true) :
    ∃ octets, octets? text = some octets ∧ octets.length = count := by
  simp only [isHexOfLength, decide_eq_true_eq] at h
  obtain ⟨hlength, hdigits⟩ := h
  obtain ⟨chars, hsymbols, hall⟩ := map_char_of_all hdigits
  have hchars : text.chars? = some chars := Text.chars?_eq_some_iff.2 (by
    cases text; simpa [Text.ofChars] using hsymbols)
  have hlist : chars.length = 2 * count := by
    rw [Text.length, hsymbols, List.length_map] at hlength
    exact hlength
  obtain ⟨octets, hoctets, hcount⟩ := Text.octetsOfHex?_eq_some hall (by omega)
  exact ⟨octets, by rw [octets?, hchars]; exact hoctets, by omega⟩

end ComputeDirectory.Identity
