/-!
# Text

A text is a sequence of symbols. A symbol is a character, or half of a surrogate pair that stands
alone: a code from `d800` to `dfff`, which names no character. Clients can send such halves, by an
escape or in an encoding by 16-bit units. They are kept, counted, compared and quoted like any other
symbol; only a plain text, one without halves, can be written as octets.

Main statements: `chars?_ofChars`, the characters of a text that was made from characters are those,
and `chars?_eq_some_iff`, no other text has them.
-/

namespace ComputeDirectory

/-- A character, or half of a surrogate pair; the index of a half counts from the code `d800`. -/
inductive Symbol
  | char (c : Char)
  | half (index : Fin 0x800)
  deriving DecidableEq, Repr, Inhabited

namespace Symbol

instance : Coe Char Symbol := ⟨char⟩

/-- The character that a symbol is, if it is one. -/
def char? : Symbol → Option Char
  | char c => some c
  | half _ => none

/-- Whether a symbol is a character with a property. -/
def satisfies (p : Char → Bool) : Symbol → Bool
  | char c => p c
  | half _ => false

/-- The code point of a symbol. -/
def code : Symbol → Nat
  | char c => c.toNat
  | half index => 0xd800 + index

/-- The symbol of a code point; the last one is `10ffff`. -/
def ofCode? (code : Nat) : Option Symbol :=
  if 0xd800 ≤ code ∧ code < 0xe000 then some (half (Fin.ofNat 0x800 (code - 0xd800)))
  else if code < 0x110000 then some (char (Char.ofNat code))
  else none

end Symbol

/-- A sequence of symbols. -/
structure Text where
  symbols : List Symbol
  deriving DecidableEq, Repr, Inhabited

namespace Text

/-- The text of some characters. -/
def ofChars (chars : List Char) : Text := ⟨chars.map .char⟩

/-- A string as a text. -/
def ofString (s : String) : Text := ofChars s.toList

instance : Coe String Text := ⟨ofString⟩

instance : Append Text := ⟨fun a b => ⟨a.symbols ++ b.symbols⟩⟩

/-- How many symbols a text has. -/
def length (t : Text) : Nat := t.symbols.length

/-- Whether a text has no symbols. -/
def isEmpty (t : Text) : Bool := t.symbols.isEmpty

/-- The first symbols, as many as asked for. -/
def take (count : Nat) (t : Text) : Text := ⟨t.symbols.take count⟩

/-- Whether a text holds no halves of surrogate pairs. -/
def isPlain (t : Text) : Bool := t.symbols.all fun s => s.satisfies fun _ => true

/-- The characters of a plain text. -/
def chars? (t : Text) : Option (List Char) :=
  if t.isPlain then some (t.symbols.filterMap Symbol.char?) else none

/-- The octets of a plain text in UTF-8. -/
def octets? (t : Text) : Option (List UInt8) :=
  t.chars?.map fun chars => (String.ofList chars).toUTF8.toList

@[simp] theorem symbols_append (a b : Text) : (a ++ b).symbols = a.symbols ++ b.symbols := rfl

private theorem filterMap_char? {symbols : List Symbol}
    (h : symbols.all (fun s => s.satisfies fun _ => true) = true) :
    (symbols.filterMap Symbol.char?).map .char = symbols := by
  induction symbols with
  | nil => rfl
  | cons s rest ih =>
    cases s with
    | char c =>
      simpa [Symbol.char?, Symbol.satisfies] using ih (by simpa [Symbol.satisfies] using h)
    | half index => simp [Symbol.satisfies] at h

private theorem filterMap_map_char (chars : List Char) :
    (chars.map Symbol.char).filterMap Symbol.char? = chars := by
  have h : Symbol.char? ∘ Symbol.char = some := rfl
  rw [List.filterMap_map, h, List.filterMap_some]

theorem isPlain_ofChars (chars : List Char) : (ofChars chars).isPlain = true := by
  simp [isPlain, ofChars, Symbol.satisfies]

/-- A text has some characters exactly if it is made of them. -/
theorem chars?_eq_some_iff {t : Text} {chars : List Char} :
    t.chars? = some chars ↔ t = ofChars chars := by
  constructor
  · intro h
    by_cases hp : t.isPlain = true
    · simp only [chars?, hp, if_true, Option.some.injEq] at h
      rw [ofChars, ← h, filterMap_char? hp]
    · simp [chars?, hp] at h
  · rintro rfl
    simp only [chars?, isPlain_ofChars, if_true, Option.some.injEq]
    exact filterMap_map_char chars

@[simp] theorem chars?_ofChars (chars : List Char) : (ofChars chars).chars? = some chars :=
  chars?_eq_some_iff.2 rfl

/-- A text is plain exactly if it has characters. -/
theorem chars?_isSome (t : Text) : t.chars?.isSome = t.isPlain := by
  cases h : t.isPlain <;> simp [chars?, h]

end Text

end ComputeDirectory
