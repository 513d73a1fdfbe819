import ComputeDirectory.Binary64.Magnitude

/-!
# Binary64 numbers, exactly

A finite binary64 number is kept by its sign and its magnitude, counted in units of `2 ^ -1074`: no
information is lost, and comparison is comparison of integers. The two zeros differ in sign only and
compare as equal; `nan` compares as equal to nothing.

Every operation that produces a finite number goes through `roundQuotient`, which rounds an exact
quotient to the nearest number with 53 significant bits, and turns what lies beyond the range into an
infinity. Decimal text is read in `Binary64.Decimal` and written in `Binary64.Shortest`.
-/

namespace ComputeDirectory

/-- A binary64 number. -/
inductive Binary64
  | nan
  | infinity (negative : Bool)
  | finite (negative : Bool) (magnitude : Binary64.Magnitude)
  deriving DecidableEq, Repr, Inhabited

namespace Binary64

/-- A signed whole number of units. -/
def signedUnits (negative : Bool) (units : Nat) : Int :=
  if negative then -(units : Int) else units

/-! ## Rounding -/

/-- The binary64 number nearest to `num / den` units. -/
def roundQuotient (negative : Bool) (num den : Nat) : Binary64 :=
  if h : rounded num den < overflow then
    .finite negative ⟨rounded num den, aligned_rounded num den, h⟩
  else .infinity negative

/-- The number nearest to an integer, or none when it is out of range. -/
def ofInt? (n : Int) : Option Binary64 :=
  match roundQuotient (n < 0) (n.natAbs * unitsPerOne) 1 with
  | .finite negative magnitude => some (.finite negative magnitude)
  | _ => none

/-- The small natural numbers are exact. -/
def ofNat (n : Nat) : Binary64 := roundQuotient false (n * unitsPerOne) 1

/-- Positive zero. -/
def zero : Binary64 := .finite false .zero

/-- One hundred. -/
def hundred : Binary64 :=
  .finite false ⟨100 * unitsPerOne, by decide +kernel, by decide +kernel⟩

/-! ## Order -/

/-- Numeric equality: the zeros are equal, `nan` is equal to nothing. -/
def eq : Binary64 → Binary64 → Bool
  | .infinity s, .infinity t => s == t
  | .finite s m, .finite t n => signedUnits s m.units == signedUnits t n.units
  | _, _ => false

/-- Numeric order; `nan` is below nothing and above nothing. -/
def lt : Binary64 → Binary64 → Bool
  | .infinity s, .infinity t => s && !t
  | .infinity s, .finite _ _ => s
  | .finite _ _, .infinity t => !t
  | .finite s m, .finite t n => decide (signedUnits s m.units < signedUnits t n.units)
  | _, _ => false

/-- Below or equal. -/
def le (x y : Binary64) : Bool := x.lt y || x.eq y

/-- Neither `nan` nor an infinity. -/
def isFinite : Binary64 → Bool
  | .finite _ _ => true
  | _ => false

/-- Keeps a number between the bounds. What is not below the upper bound, `nan` included, becomes
the upper bound; what is not above the lower bound, the negative zero included, the lower one. -/
def clamp (x lower upper : Binary64) : Binary64 :=
  let capped := if x.lt upper then x else upper
  if lower.lt capped then capped else lower

/-! ## Arithmetic -/

/-- The number with the sign turned. -/
def neg : Binary64 → Binary64
  | .nan => .nan
  | .infinity s => .infinity (!s)
  | .finite s m => .finite (!s) m

/-- The rounded sum; opposite numbers give positive zero, opposite infinities `nan`. -/
def add : Binary64 → Binary64 → Binary64
  | .infinity s, .infinity t => if s == t then .infinity s else .nan
  | .infinity s, .finite _ _ => .infinity s
  | .finite _ _, .infinity t => .infinity t
  | .finite s m, .finite t n =>
    let total := signedUnits s m.units + signedUnits t n.units
    if total = 0 then .finite (s && t) .zero else roundQuotient (total < 0) total.natAbs 1
  | _, _ => .nan

/-- The rounded difference. -/
def sub (x y : Binary64) : Binary64 := x.add y.neg

/-- The rounded product with a positive whole number. -/
def scale (factor : Nat) : Binary64 → Binary64
  | .finite s m => roundQuotient s (m.units * factor) 1
  | x => x

/-- The rounded quotient of two natural numbers. -/
def quotient (num den : Nat) : Binary64 := roundQuotient false (num * unitsPerOne) den

/-- The nearest number with `places` decimal places: the exact value is rounded to that grid, a tie
going to the even neighbour, and the result to binary64. -/
def roundPlaces (places : Nat) : Binary64 → Binary64
  | .finite s m =>
    let grid := Nat.pow 10 places
    roundQuotient s (nearestEven (m.units * grid) unitsPerOne * unitsPerOne) grid
  | x => x

/-- The whole number nearest to the magnitude of a finite number, a half going upwards. -/
def round : Binary64 → Nat
  | .finite _ m => (2 * m.units + unitsPerOne) / (2 * unitsPerOne)
  | _ => 0

/-- The least integer that is not below a finite number. -/
def ceil? : Binary64 → Option Int
  | .finite s m => some (-(-(signedUnits s m.units) / unitsPerOne))
  | _ => none

/-- The integer that a finite number is, if it is one. -/
def toInt? : Binary64 → Option Int
  | .finite s m =>
    if m.units % unitsPerOne = 0 then some (signedUnits s m.units / unitsPerOne) else none
  | _ => none

end Binary64

end ComputeDirectory
