import ComputeDirectory.Text.Basic
import ComputeDirectory.Text.Hex

/-!
# Octets and their digits

A text of lowercase hexadecimal digits, two to an octet, is the text of some octets
(`isHex_iff_octets`), and these are read back from it (`octetsOfHex?_hexOfOctets`).
-/

namespace ComputeDirectory.Text

/-! ## Digits -/

/-- The lowercase hexadecimal digits. -/
def lowerHexDigits : List Char :=
  ['0', '1', '2', '3', '4', '5', '6', '7', '8', '9', 'a', 'b', 'c', 'd', 'e', 'f']

/-- A text is so many lowercase hexadecimal digits, and nothing else. -/
def IsHex (count : Nat) (text : Text) : Prop :=
  ∃ chars : List Char, text = ofChars chars ∧ chars.length = count ∧ ∀ c ∈ chars, c ∈ lowerHexDigits

theorem hexValue?_hexDigit : ∀ n < 16, hexValue? (hexDigit n) = some n := by decide

theorem hexDigit_mem : ∀ n < 16, hexDigit n ∈ lowerHexDigits := by decide

theorem isLowerHex_of_mem : ∀ c ∈ lowerHexDigits, isLowerHex c = true := by
  simp [lowerHexDigits, isLowerHex]

/-- A lowercase digit is the digit of its value. -/
theorem exists_hexDigit {c : Char} (h : isLowerHex c = true) : ∃ n < 16, hexDigit n = c := by
  simp only [isLowerHex, decide_eq_true_eq] at h
  rcases h with ⟨hlow, hhigh⟩ | ⟨hlow, hhigh⟩
  · have hlow : 48 ≤ c.toNat := hlow
    have hhigh : c.toNat ≤ 57 := hhigh
    refine ⟨c.toNat - 48, by omega, ?_⟩
    rw [hexDigit, if_pos (by omega), Nat.add_sub_cancel' hlow, Char.ofNat_toNat]
  · have hlow : 97 ≤ c.toNat := hlow
    have hhigh : c.toNat ≤ 102 := hhigh
    refine ⟨c.toNat - 87, by omega, ?_⟩
    rw [hexDigit, if_neg (by omega), Nat.add_sub_cancel' (by omega), Char.ofNat_toNat]

theorem isLowerHex_iff_mem (c : Char) : isLowerHex c = true ↔ c ∈ lowerHexDigits := by
  constructor
  · intro h
    obtain ⟨n, hn, rfl⟩ := exists_hexDigit h
    exact hexDigit_mem n hn
  · exact isLowerHex_of_mem c

/-! ## Octets -/

theorem hexOfOctets_cons (octet : UInt8) (octets : List UInt8) :
    hexOfOctets (octet :: octets)
      = hexDigit (octet.toNat / 16) :: hexDigit (octet.toNat % 16) :: hexOfOctets octets := rfl

theorem length_hexOfOctets (octets : List UInt8) :
    (hexOfOctets octets).length = 2 * octets.length := by
  induction octets with
  | nil => rfl
  | cons octet octets ih =>
    rw [hexOfOctets_cons, List.length_cons, List.length_cons, ih, List.length_cons]
    omega

theorem mem_hexOfOctets {octets : List UInt8} {c : Char} (h : c ∈ hexOfOctets octets) :
    c ∈ lowerHexDigits := by
  obtain ⟨octet, -, hc⟩ := List.mem_flatMap.1 h
  have hoctet := octet.toNat_lt
  simp only [List.mem_cons, List.not_mem_nil, or_false] at hc
  rcases hc with rfl | rfl
  · exact hexDigit_mem _ (by omega)
  · exact hexDigit_mem _ (by omega)

/-- Octets are read back from their digits. -/
theorem octetsOfHex?_hexOfOctets (octets : List UInt8) :
    octetsOfHex? (hexOfOctets octets) = some octets := by
  induction octets with
  | nil => rfl
  | cons octet octets ih =>
    have hoctet := octet.toNat_lt
    have hvalue : UInt8.ofNat (16 * (octet.toNat / 16) + octet.toNat % 16) = octet := by
      rw [Nat.div_add_mod, UInt8.ofNat_toNat]
    rw [hexOfOctets_cons, octetsOfHex?, hexValue?_hexDigit _ (by omega),
      hexValue?_hexDigit _ (by omega), ih]
    simp only [hvalue]

/-- Pairs of lowercase digits are the digits of some octets. -/
theorem exists_hexOfOctets : ∀ {chars : List Char} (count : Nat), chars.length = 2 * count →
    (∀ c ∈ chars, c ∈ lowerHexDigits) → ∃ octets, chars = hexOfOctets octets ∧ octets.length = count
  | [], count, hlength, _ => ⟨[], rfl, by rw [List.length_nil] at *; omega⟩
  | [_], count, hlength, _ => by
    rw [List.length_singleton] at hlength
    omega
  | a :: b :: chars, count, hlength, hdigits => by
    simp only [List.length_cons] at hlength
    simp only [List.forall_mem_cons, ← isLowerHex_iff_mem] at hdigits
    obtain ⟨ha, hb, hrest⟩ := hdigits
    obtain ⟨upper, hupper, rfl⟩ := exists_hexDigit ha
    obtain ⟨lower, hlower, rfl⟩ := exists_hexDigit hb
    obtain ⟨octets, rfl, hcount⟩ := exists_hexOfOctets (count - 1) (by omega)
      (fun c hc => (isLowerHex_iff_mem c).1 (hrest c hc))
    refine ⟨UInt8.ofNat (16 * upper + lower) :: octets, ?_, by rw [List.length_cons]; omega⟩
    have hvalue : (UInt8.ofNat (16 * upper + lower)).toNat = 16 * upper + lower :=
      UInt8.toNat_ofNat_of_lt' (show _ < 256 by omega)
    have hdiv : (16 * upper + lower) / 16 = upper := by omega
    have hmod : (16 * upper + lower) % 16 = lower := by omega
    rw [hexOfOctets_cons, hvalue, hdiv, hmod]

/-- A text of lowercase digits, two to an octet, is the text of these octets. -/
theorem isHex_iff_octets (count : Nat) {text : Text} :
    IsHex (2 * count) text ↔
      ∃ octets : List UInt8, text = ofChars (hexOfOctets octets) ∧ octets.length = count := by
  constructor
  · rintro ⟨chars, rfl, hlength, hdigits⟩
    obtain ⟨octets, rfl, hcount⟩ := exists_hexOfOctets count hlength hdigits
    exact ⟨octets, rfl, hcount⟩
  · rintro ⟨octets, rfl, rfl⟩
    exact ⟨_, rfl, length_hexOfOctets octets, fun c hc => mem_hexOfOctets hc⟩

end ComputeDirectory.Text
