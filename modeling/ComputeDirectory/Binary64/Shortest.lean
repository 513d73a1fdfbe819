import ComputeDirectory.Binary64.Decimal

/-!
# The shortest decimal that reads back

A magnitude `m` is what every real number of its rounding interval rounds to. `shortest` looks for
a decimal in that interval with one digit, then two, up to seventeen, which always suffice. On the
grid of a given digit count only the two neighbours of `m` can be the nearest decimals; the first
grid with a neighbour inside the interval wins, and of two such neighbours the nearer one, or the
even one when both are equally near.

`render` lays the digits out: positional notation from `0.0001` up to sixteen places before the
point, scientific notation outside, always with a fraction or an exponent.
-/

namespace ComputeDirectory.Binary64

/-- The rounding interval of a magnitude, in quarters of a unit: its ends, and whether the ends
themselves round to the magnitude (they do when its last significant bit is zero). -/
structure Interval where
  low : Nat
  high : Nat
  closed : Bool

/-- The interval of numbers that round to `m`. Below a power of two the spacing is halved. -/
def Interval.around (m : Nat) : Interval :=
  let gap := Nat.pow 2 (m.log2 - 52)
  let below := if m = Nat.pow 2 m.log2 ∧ 1 < gap then gap else 2 * gap
  { low := 4 * m - below, high := 4 * m + 2 * gap, closed := m / gap % 2 = 0 }

/-- Whether `num / den` quarters of a unit lie in the interval. -/
def Interval.holds (i : Interval) (num den : Nat) : Bool :=
  if i.closed then decide (i.low * den ≤ num) && decide (num ≤ i.high * den)
  else decide (i.low * den < num) && decide (num < i.high * den)

/-- A decimal `0.d₁d₂… * 10 ^ point`, by its digits. -/
structure Decimal where
  digits : List Char
  point : Int
  deriving DecidableEq, Repr

/-- The place of the leading digit: the least `p` with `m` units below `10 ^ p`. The scaling by
`10 ^ 330` keeps the least positive number above one. -/
def leadingPlace (m : Nat) : Int := decimalLength (m * Nat.pow 10 330 / unitsPerOne) - 330

/-- The decimal with `count` digits that is nearest to `m` units, if it rounds to `m`. -/
def nearestDecimal? (m count : Nat) : Option Decimal :=
  let place := leadingPlace m - count
  -- one step of the grid is `num / den` quarters of a unit
  let num := 4 * unitsPerOne * Nat.pow 10 place.toNat
  let den := Nat.pow 10 (-place).toNat
  let i := Interval.around m
  let floor := 4 * m * den / num
  let take (c : Nat) : Option Decimal :=
    if i.holds (c * num) den then
      let digits := Nat.toDigits 10 c
      some ⟨digits, place + digits.length⟩
    else none
  if nearestEven (4 * m * den) num = floor then (take floor).or (take (floor + 1))
  else (take (floor + 1)).or (take floor)

/-- The shortest decimal that reads back as `m` units. -/
def shortest (m : Nat) : Decimal :=
  ((List.range 17).findSome? fun k => nearestDecimal? m (k + 1)).getD ⟨['0'], 1⟩

/-- Drops zeros from the end. -/
def dropTrailingZeros (digits : List Char) : List Char :=
  (digits.reverse.dropWhile (· = '0')).reverse

/-- Writes a decimal: positional when the leading digit stands between the fourth place after the
point and the sixteenth before it, scientific with an exponent of two digits at least otherwise. -/
def Decimal.render (d : Decimal) : List Char :=
  let digits := dropTrailingZeros d.digits
  let count : Int := digits.length
  if 0 < d.point ∧ d.point ≤ 16 then
    if count ≤ d.point then
      digits ++ List.replicate (d.point - count).toNat '0' ++ ['.', '0']
    else digits.take d.point.toNat ++ '.' :: digits.drop d.point.toNat
  else if -4 < d.point ∧ d.point ≤ 0 then
    '0' :: '.' :: (List.replicate (-d.point).toNat '0' ++ digits)
  else
    let exponent := d.point - 1
    let size := Nat.toDigits 10 exponent.natAbs
    let fraction := if digits.length ≤ 1 then [] else '.' :: digits.drop 1
    digits.take 1 ++ fraction ++ 'e' :: (if exponent < 0 then '-' else '+') ::
      (if size.length < 2 then '0' :: size else size)

/-- The text of a number: the shortest decimal that reads back, or `nan`, `inf`, `-inf`. -/
def render : Binary64 → String
  | .nan => "nan"
  | .infinity false => "inf"
  | .infinity true => "-inf"
  | .finite negative m =>
    let body := if m.units = 0 then ['0', '.', '0'] else (shortest m.units).render
    String.ofList (if negative then '-' :: body else body)

end ComputeDirectory.Binary64
