/-!
# The curve secp256k1

The points of `y² = x³ + 7` over the field of `fieldPrime` elements, which form a group of prime
order `groupOrder`. Coordinates are natural numbers below `fieldPrime`.

Computation runs on Jacobian coordinates, where the triple `(x, y, z)` stands for the affine point
`(x / z², y / z³)` and `z = 0` for the neutral element, so that a whole scalar multiplication needs
one division at its end.
-/

namespace ComputeDirectory.Crypto.Secp256k1

/-- The number of field elements: `2 ^ 256 - 2 ^ 32 - 977`. -/
def fieldPrime : Nat := 0xfffffffffffffffffffffffffffffffffffffffffffffffffffffffefffffc2f

/-- The number of points. -/
def groupOrder : Nat := 0xfffffffffffffffffffffffffffffffebaaedce6af48a03bbfd25e8cd0364141

/-! ## The field -/

/-- The product of two field elements. -/
def mul (a b : Nat) : Nat := a * b % fieldPrime

/-- The sum of two field elements. -/
def add (a b : Nat) : Nat := (a + b) % fieldPrime

/-- The difference of two field elements. -/
def sub (a b : Nat) : Nat := (a + (fieldPrime - b % fieldPrime)) % fieldPrime

/-- A power, for exponents below `2 ^ 256`: squarings, and a factor for each set bit. -/
def pow (base exponent : Nat) : Nat :=
  (List.range 256).foldl
    (fun acc i =>
      let square := mul acc acc
      if exponent.testBit (255 - i) then mul square base else square)
    1

/-- The inverse of a field element that is not zero. -/
def inverse (a : Nat) : Nat := pow a (fieldPrime - 2)

/-- The square root of a field element, if it has one: `fieldPrime` leaves the rest 3 modulo 4, so
the power `(fieldPrime + 1) / 4` of a square is a root of it. -/
def sqrt? (a : Nat) : Option Nat :=
  let root := pow a ((fieldPrime + 1) / 4)
  if mul root root = a % fieldPrime then some root else none

/-! ## Points -/

/-- A point of the curve by its coordinates. -/
structure Point where
  x : Nat
  y : Nat
  deriving DecidableEq, Repr

/-- The base point. -/
def generator : Point where
  x := 0x79be667ef9dcbbac55a06295ce870b07029bfcdb2dce28d959f2815b16f81798
  y := 0x483ada7726a3c4655da4fbfc0e1108a8fd17b448a68554199c47d08ffb10d4b8

/-- The point with an even second coordinate over `x`, if there is one. -/
def liftX? (x : Nat) : Option Point :=
  if fieldPrime ≤ x then none
  else
    (sqrt? (add (mul x (mul x x)) 7)).map fun y =>
      ⟨x, if y % 2 = 0 then y else fieldPrime - y⟩

/-- A point in Jacobian coordinates. -/
structure Jacobian where
  x : Nat
  y : Nat
  z : Nat
  deriving DecidableEq, Repr

/-- The neutral element. -/
def Jacobian.neutral : Jacobian := ⟨1, 1, 0⟩

/-- An affine point in Jacobian coordinates. -/
def Point.jacobian (p : Point) : Jacobian := ⟨p.x, p.y, 1⟩

/-- Twice a point. -/
def Jacobian.double (p : Jacobian) : Jacobian :=
  if p.z = 0 ∨ p.y = 0 then .neutral
  else
    let yy := mul p.y p.y
    let s := mul 4 (mul p.x yy)
    let m := mul 3 (mul p.x p.x)
    let x := sub (mul m m) (mul 2 s)
    let y := sub (mul m (sub s x)) (mul 8 (mul yy yy))
    ⟨x, y, mul 2 (mul p.y p.z)⟩

/-- The sum of two points. -/
def Jacobian.add (p q : Jacobian) : Jacobian :=
  if p.z = 0 then q
  else if q.z = 0 then p
  else
    let pzz := mul p.z p.z
    let qzz := mul q.z q.z
    let u := mul p.x qzz
    let v := mul q.x pzz
    let s := mul p.y (mul q.z qzz)
    let t := mul q.y (mul p.z pzz)
    if u = v then if s = t then p.double else .neutral
    else
      let h := sub v u
      let r := sub t s
      let hh := mul h h
      let hhh := mul h hh
      let w := mul u hh
      let x := sub (sub (mul r r) hhh) (mul 2 w)
      let y := sub (mul r (sub w x)) (mul s hhh)
      ⟨x, y, mul h (mul p.z q.z)⟩

/-- The affine point, unless it is the neutral element. -/
def Jacobian.affine? (p : Jacobian) : Option Point :=
  if p.z = 0 then none
  else
    let inv := inverse p.z
    let inv2 := mul inv inv
    some ⟨mul p.x inv2, mul p.y (mul inv inv2)⟩

/-- The combination `a • p + b • q` for factors below `2 ^ 256`: both factors are read from their
highest bit down, one doubling for each place. -/
def combine (a : Nat) (p : Point) (b : Nat) (q : Point) : Jacobian :=
  let p := p.jacobian
  let q := q.jacobian
  let both := p.add q
  (List.range 256).foldl
    (fun acc i =>
      let twice := acc.double
      match a.testBit (255 - i), b.testBit (255 - i) with
      | false, false => twice
      | true, false => twice.add p
      | false, true => twice.add q
      | true, true => twice.add both)
    .neutral

end ComputeDirectory.Crypto.Secp256k1
