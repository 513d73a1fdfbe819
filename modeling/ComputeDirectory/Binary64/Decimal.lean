import ComputeDirectory.Binary64.Basic

/-!
# From decimal numerals to binary64

`ofDecimal` rounds `digits * 10 ^ exponent` correctly, whatever the size of the exponent: a numeral
whose leading digit stands far outside the range is settled by its place alone, so no huge power of
ten is ever built.
-/

namespace ComputeDirectory.Binary64

/-- How many decimal digits a natural number has; zero has one. -/
def decimalLength (n : Nat) : Nat := (Nat.toDigits 10 n).length

/-- The binary64 number nearest to `digits * 10 ^ exponent`. The largest finite number is below
`10 ^ 309` and the least positive one above `10 ^ -324`, which leaves room to spare in the cuts. -/
def ofDecimal (negative : Bool) (digits : Nat) (exponent : Int) : Binary64 :=
  let place := decimalLength digits + exponent
  if digits = 0 ∨ place < -400 then .finite negative .zero
  else if 400 < place then .infinity negative
  else if 0 ≤ exponent then
    roundQuotient negative (digits * Nat.pow 10 exponent.toNat * unitsPerOne) 1
  else roundQuotient negative (digits * unitsPerOne) (Nat.pow 10 (-exponent).toNat)

end ComputeDirectory.Binary64
