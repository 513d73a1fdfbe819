import ComputeDirectory.Binary64.Decimal
import ComputeDirectory.Text.Blank

/-!
# Numerals

How people write numbers in text fields, settings and query parameters. Digits are ASCII.

* A plain integer is a zero, or digits of which the first is not zero, perhaps after a minus.
  `integer` also reads what becomes one when it is tidied up: blanks around it, a plus, zeros in
  front, a fraction of zeros and single underscores are dropped (`+5`, `1_000`, `12.00`, `-007`).
* A plain real has digits before or after a point, perhaps a sign and an exponent (`.5`, `5.`,
  `1e3`), or is one of the words `inf`, `infinity` and `nan` in any case. `real?` also reads what
  becomes one when the blanks around it are dropped, or else the single underscores.
-/

namespace ComputeDirectory.Text

/-- The value of a list of digits. -/
def natOfDigits (digits : List Char) : Nat :=
  digits.foldl (fun n c => 10 * n + (c.toNat - '0'.toNat)) 0

/-- The integer of a sign and digits. -/
def intOfDigits (negative : Bool) (digits : List Char) : Int :=
  if negative then -(natOfDigits digits : Int) else natOfDigits digits

/-- Whether an integer fits 64 bits, one of them for the sign. -/
def isWord (n : Int) : Bool := -9223372036854775808 ≤ n && n < 9223372036854775808

/-- Splits off a sign: whether it is a minus, and the rest. -/
def sign : List Char → Bool × List Char
  | '-' :: rest => (true, rest)
  | '+' :: rest => (false, rest)
  | text => (false, text)

/-- Splits off a minus: whether there is one, and the rest. -/
def minus : List Char → Bool × List Char
  | '-' :: rest => (true, rest)
  | text => (false, text)

/-- Whether two underscores stand side by side. -/
def hasDoubleUnderscore : List Char → Bool
  | '_' :: '_' :: _ => true
  | _ :: rest => hasDoubleUnderscore rest
  | [] => false

/-- Drops single underscores, if there are any and none of them stands at an end. -/
def withoutUnderscores? (text : List Char) : Option (List Char) :=
  if !text.contains '_' || text.head? = some '_' || text.getLast? = some '_' ||
      hasDoubleUnderscore text then none
  else some (text.filter (· ≠ '_'))

/-! ## Integers -/

/-- Why a text is no integer numeral. -/
inductive IntegerFault
  | malformed
  /-- The numeral is too long to be read. -/
  | tooLong
  deriving DecidableEq, Repr

/-- The most digits that an integer numeral may have. -/
def maxNumeral : Nat := 4300

/-- Reads a plain integer. A text that begins with too long a numeral is too long, whatever
follows. -/
def plainInteger (text : List Char) : Except IntegerFault Int :=
  let (negative, body) := minus text
  let digits := body.takeWhile Char.isDigit
  match digits with
  | [] => .error .malformed
  | '0' :: _ => if body = ['0'] then .ok 0 else .error .malformed
  | _ =>
    if maxNumeral < digits.length then .error .tooLong
    else if digits.length = body.length then .ok (intOfDigits negative digits)
    else .error .malformed

/-- The numeral after a zero that was dropped: further zeros and underscores are dropped too, but
the last of them stays when the numeral ends with it, or goes on with a point. -/
def afterZero? (last : Char) : List Char → Option (List Char)
  | [] => some [last]
  | c :: rest =>
    if c = '0' ∨ c = '_' then afterZero? c rest
    else if c.isDigit ∨ c = '-' then some (c :: rest)
    else if c = '.' then some (last :: c :: rest)
    else none

/-- Drops the zeros in front of a numeral. A minus may stand behind them. -/
def withoutLeadingZeros? : List Char → Option (List Char)
  | '0' :: rest => afterZero? '0' rest
  | c :: rest => if c.isDigit then some (c :: rest) else none
  | [] => none

/-- Drops a point with zeros after it, one at least, and nothing else. -/
def withoutZeroFraction (text : List Char) : List Char :=
  match text.dropWhile (· ≠ '.') with
  | '.' :: '0' :: part => if part.all (· = '0') then text.takeWhile (· ≠ '.') else text
  | _ => text

/-- Tidies up a numeral from which a sign was split off. -/
def tidiedDigits? (text : List Char) : Option (List Char) :=
  (withoutLeadingZeros? text).map fun stripped =>
    let whole := withoutZeroFraction stripped
    (withoutUnderscores? whole).getD whole

/-- Tidies a numeral up. A plus is dropped, and a minus stays in front of what is tidied. -/
def tidied? (text : List Char) : Option (List Char) :=
  match trim text with
  | '+' :: rest => tidiedDigits? rest
  | '-' :: rest => (tidiedDigits? rest).map ('-' :: ·)
  | rest => tidiedDigits? rest

/-- Reads an integer numeral, plain or to be tidied up. -/
def integer (text : List Char) : Except IntegerFault Int :=
  match plainInteger text with
  | .ok n => .ok n
  | .error .tooLong => .error .tooLong
  | .error .malformed =>
    match (tidied? text).map plainInteger with
    | some (.ok n) => .ok n
    | _ => .error .malformed

/-! ## Reals -/

/-- The exponent at the end of a numeral; nothing stands for zero. -/
def exponent? : List Char → Option Int
  | [] => some 0
  | c :: rest =>
    if c = 'e' ∨ c = 'E' then
      let (negative, digits) := sign rest
      if digits.isEmpty || !digits.all Char.isDigit then none
      else some (intOfDigits negative digits)
    else none

/-- The fraction after the digits before the point, and what follows it. -/
def fraction : List Char → List Char × List Char
  | '.' :: rest => (rest.takeWhile Char.isDigit, rest.dropWhile Char.isDigit)
  | text => ([], text)

/-- Reads a plain real. -/
def plainReal? (text : List Char) : Option Binary64 :=
  let (negative, body) := sign text
  let word := String.ofList (body.map Char.toLower)
  if word = "inf" ∨ word = "infinity" then some (.infinity negative)
  else if word = "nan" then some .nan
  else
    let whole := body.takeWhile Char.isDigit
    let (part, rest) := fraction (body.dropWhile Char.isDigit)
    if whole.isEmpty && part.isEmpty then none
    else
      (exponent? rest).map fun e =>
        Binary64.ofDecimal negative (natOfDigits (whole ++ part)) (e - part.length)

/-- Reads a real numeral, plain or to be tidied up. -/
def real? (text : List Char) : Option Binary64 :=
  (plainReal? (trim text)).or ((withoutUnderscores? text).bind plainReal?)

end ComputeDirectory.Text
