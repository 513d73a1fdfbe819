/-!
# Labels coded in ASCII

Punycode writes a sequence of code points in ASCII letters, digits and hyphens. First come the
ASCII characters of the sequence, then a hyphen if there are any, then numbers that tell how the
others are inserted, from the lowest code point to the highest. Code point and place of an insertion
are told together, by how many pairs of both are passed over since the insertion before.

A number is written in base 36, the digit of least weight first. A digit below the threshold of its
place ends the number, and the weight of the next place shrinks with the threshold. Thresholds
follow a bias that is adapted to the number written last.

Names of hosts with symbols beyond ASCII are sent in this form, and coded labels are decoded to be
checked (`Host.Label`).
-/

namespace ComputeDirectory.Host.Punycode

/-! ## Digits and thresholds -/

/-- The digit of a value below 36: a letter, or from 26 on a numeral. -/
def digitChar (value : Nat) : Char :=
  if value < 26 then Char.ofNat ('a'.toNat + value) else Char.ofNat ('0'.toNat + (value - 26))

/-- The value of a digit, in either case. -/
def digit? (c : Char) : Option Nat :=
  if 'a' ≤ c ∧ c ≤ 'z' then some (c.toNat - 'a'.toNat)
  else if 'A' ≤ c ∧ c ≤ 'Z' then some (c.toNat - 'A'.toNat)
  else if '0' ≤ c ∧ c ≤ '9' then some (c.toNat - '0'.toNat + 26)
  else none

/-- The threshold of a place, from 1 to 26. -/
def threshold (bias place : Nat) : Nat := max 1 (min 26 (36 * (place + 1) - bias))

theorem threshold_bounds (bias place : Nat) :
    1 ≤ threshold bias place ∧ threshold bias place ≤ 26 := by
  unfold threshold
  omega

/-- Divides by 35 until little is left; given back are the rest and how many places that took, 36
for each. -/
def reduced (value : Nat) : Nat × Nat :=
  if 455 < value then
    let (rest, places) := reduced (value / 35)
    (rest, places + 36)
  else (value, 0)
termination_by value
decreasing_by exact Nat.div_lt_self (by omega) (by omega)

/-- The bias after a number, when so many code points are in place. -/
def adapted (number : Nat) (isFirst : Bool) (count : Nat) : Nat :=
  let scaled := if isFirst then number / 700 else number / 2
  let (rest, places) := reduced (scaled + scaled / count)
  places + 36 * rest / (rest + 38)

/-! ## Coding -/

/-- The digits of a number from a place on. -/
def digitsOf (bias place number : Nat) : List Char :=
  let t := threshold bias place
  if number < t then [digitChar number]
  else
    digitChar (t + (number - t) % (36 - t)) :: digitsOf bias (place + 1) ((number - t) / (36 - t))
termination_by number
decreasing_by
  have h := threshold_bounds bias place
  exact Nat.lt_of_le_of_lt (Nat.div_le_self _ _) (by omega)

/-- How far the insertions have come: the code points in place, the code point inserted last, the
place behind it, the bias, and whether nothing was inserted yet. -/
structure Progress where
  codes : List Nat
  last : Nat
  next : Nat
  bias : Nat
  isFirst : Bool

/-- Before the first insertion. -/
def Progress.start (codes : List Nat) : Progress := ⟨codes, 0x80, 0, 72, true⟩

/-- Inserts a code point, the number of which is given. -/
def Progress.insert (p : Progress) (code place number : Nat) : Progress :=
  let codes := p.codes.take place ++ code :: p.codes.drop place
  ⟨codes, code, place + 1, adapted number p.isFirst codes.length, false⟩

/-- The code points beyond ASCII, each with the place where it is inserted: behind all code points
before it that are not higher. The code points before are given. -/
def insertions (before : List Nat) : List Nat → List (Nat × Nat)
  | [] => []
  | code :: rest =>
    if code < 0x80 then insertions (code :: before) rest
    else (code, before.countP (· ≤ code)) :: insertions (code :: before) rest

/-- The digits of the numbers of some insertions. -/
def insertionDigits (p : Progress) : List (Nat × Nat) → List Char
  | [] => []
  | (code, place) :: rest =>
    let number := (code - p.last) * (p.codes.length + 1) + place - p.next
    digitsOf p.bias 0 number ++ insertionDigits (p.insert code place number) rest

/-- Codes a sequence of code points. -/
def encode (codes : List Nat) : List Char :=
  let plain := codes.filter (· < 0x80)
  let front := plain.map Char.ofNat
  let inserted := (insertions [] codes).mergeSort fun a b => a.1 ≤ b.1
  (if front.isEmpty then [] else front ++ ['-']) ++ insertionDigits (.start plain) inserted

/-! ## Decoding -/

/-- Inserts the code point that a number tells, unless there is none so high. -/
def Progress.advance? (p : Progress) (number : Nat) : Option Progress :=
  let passed := p.next + number
  let places := p.codes.length + 1
  let code := p.last + passed / places
  if 0x10ffff < code then none else some (p.insert code (passed % places) number)

/-- Follows the digits to their end. Of the number under way are given its value so far, and weight
and place of the next digit. -/
def decodeFrom (p : Progress) (value weight place : Nat) : List Char → Option (List Nat)
  | [] => if place = 0 then some p.codes else none
  | c :: rest =>
    match digit? c with
    | none => none
    | some digit =>
      let value := value + digit * weight
      let t := threshold p.bias place
      if digit < t then
        match p.advance? value with
        | none => none
        | some p => decodeFrom p 0 1 0 rest
      else decodeFrom p value (weight * (36 - t)) (place + 1) rest

/-- The code points that were coded. ASCII characters stand before the last hyphen. -/
def decode? (text : List Char) : Option (List Nat) :=
  let digits := (text.reverse.takeWhile (· ≠ '-')).reverse
  let front := text.take (text.length - digits.length - 1)
  decodeFrom (.start (front.map Char.toNat)) 0 1 0 digits

end ComputeDirectory.Host.Punycode
