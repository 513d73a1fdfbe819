import ComputeDirectory.Crypto.Schnorr
import ComputeDirectory.Proofs.Crypto.Primality
import Mathlib.Data.ZMod.Basic
import Mathlib.FieldTheory.Finite.Basic

/-!
# Points over a first coordinate

A key names a point exactly if it is the first coordinate of one (`isSome_liftX?_iff`), and the
point is then the one with an even second coordinate (`liftX?_eq_some_iff`).

Square roots carry this. The power to `(fieldPrime + 1) / 4` of a square is one of its roots, since
the power of a field element to `fieldPrime` is the element (`root_of_square`); and a square has no
other roots than two that differ in parity (`eq_of_root_of_even`). Both need that `fieldPrime` is
prime.
-/

namespace ComputeDirectory.Crypto.Secp256k1

/-! ## Powers -/

theorem fieldPrime_mod_four : fieldPrime % 4 = 3 := by decide

/-- What a step of `pow` does to the power so far. -/
def powStep (base exponent acc i : Nat) : Nat :=
  if exponent.testBit (255 - i) then mul (mul acc acc) base else mul acc acc

theorem powStep_eq (base exponent i : Nat) :
    powStep base exponent (base ^ (exponent / 2 ^ (255 - i) / 2) % fieldPrime) i
      = base ^ (exponent / 2 ^ (255 - i)) % fieldPrime := by
  rw [powStep, Nat.testBit_eq_decide_div_mod_eq]
  generalize exponent / 2 ^ (255 - i) = bits
  have hsquare : mul (base ^ (bits / 2) % fieldPrime) (base ^ (bits / 2) % fieldPrime)
      = base ^ (2 * (bits / 2)) % fieldPrime := by
    rw [mul, ← Nat.mul_mod, ← pow_add, two_mul]
  rw [hsquare]
  simp only [decide_eq_true_eq]
  split
  · next hodd =>
    have hbits : bits = 2 * (bits / 2) + 1 := by omega
    rw [mul, Nat.mod_mul_mod, ← pow_succ, ← hbits]
  · next heven =>
    have hbits : bits = 2 * (bits / 2) := by omega
    rw [← hbits]

/-- After some of the 256 steps the power has been taken to the leading bits of the exponent. -/
theorem foldl_powStep (base : Nat) {exponent count : Nat} (h : exponent < 2 ^ 256)
    (hcount : count ≤ 256) :
    (List.range count).foldl (powStep base exponent) 1
      = base ^ (exponent / 2 ^ (256 - count)) % fieldPrime := by
  induction count with
  | zero =>
    rw [Nat.sub_zero, Nat.div_eq_of_lt h, pow_zero, Nat.mod_eq_of_lt prime_fieldPrime.one_lt]
    rfl
  | succ count ih =>
    have hplace : 256 - count = 255 - count + 1 := by omega
    have hnext : 256 - (count + 1) = 255 - count := by omega
    rw [List.range_succ, List.foldl_append, ih (by omega), List.foldl_cons, List.foldl_nil, hplace,
      pow_succ, ← Nat.div_div_eq_div_mul, powStep_eq, hnext]

theorem pow_eq (base : Nat) {exponent : Nat} (h : exponent < 2 ^ 256) :
    pow base exponent = base ^ exponent % fieldPrime := by
  have hall := foldl_powStep base h (le_refl 256)
  rw [Nat.sub_self, pow_zero, Nat.div_one] at hall
  exact hall

/-! ## Square roots -/

theorem pow_fieldPrime_modEq (y : Nat) : y ^ fieldPrime ≡ y [MOD fieldPrime] := by
  have : Fact fieldPrime.Prime := ⟨prime_fieldPrime⟩
  rw [← ZMod.natCast_eq_natCast_iff, Nat.cast_pow, ZMod.pow_card]

/-- The power to a quarter of `fieldPrime + 1` of a square is a root of it. -/
theorem root_of_square {a y : Nat} (h : y ^ 2 ≡ a [MOD fieldPrime]) :
    (a ^ ((fieldPrime + 1) / 4)) ^ 2 ≡ a [MOD fieldPrime] := by
  have hquarter : 2 * ((fieldPrime + 1) / 4 * 2) = fieldPrime + 1 := by
    have := fieldPrime_mod_four
    omega
  calc
    (a ^ ((fieldPrime + 1) / 4)) ^ 2
        ≡ ((y ^ 2) ^ ((fieldPrime + 1) / 4)) ^ 2 [MOD fieldPrime] := (h.symm.pow _).pow 2
    _ = y ^ fieldPrime * y := by rw [← pow_mul, ← pow_mul, hquarter, pow_succ]
    _ ≡ y * y [MOD fieldPrime] := (pow_fieldPrime_modEq y).mul_right y
    _ = y ^ 2 := (sq y).symm
    _ ≡ a [MOD fieldPrime] := h

theorem sqrt?_sound {a root : Nat} (h : sqrt? a = some root) :
    root < fieldPrime ∧ root ^ 2 ≡ a [MOD fieldPrime] := by
  have hlt : (fieldPrime + 1) / 4 < 2 ^ 256 := by decide
  rw [sqrt?, pow_eq a hlt] at h
  split at h
  · next hroot =>
    rw [← Option.some.inj h]
    exact ⟨Nat.mod_lt _ prime_fieldPrime.pos, by rw [sq]; exact hroot⟩
  · cases h

/-- A root is found if there is one. -/
theorem isSome_sqrt? {a y : Nat} (h : y ^ 2 ≡ a [MOD fieldPrime]) : (sqrt? a).isSome = true := by
  have hlt : (fieldPrime + 1) / 4 < 2 ^ 256 := by decide
  have hroot : mul (a ^ ((fieldPrime + 1) / 4) % fieldPrime)
      (a ^ ((fieldPrime + 1) / 4) % fieldPrime) = a % fieldPrime := by
    rw [mul, ← Nat.mul_mod, ← sq]
    exact root_of_square h
  rw [sqrt?, pow_eq a hlt]
  simp only [hroot, if_true, Option.isSome_some]

/-- Of two roots the even one is told by its square. -/
theorem eq_of_root_of_even {y z : Nat} (hy : y < fieldPrime) (hz : z < fieldPrime)
    (hyeven : y % 2 = 0) (hzeven : z % 2 = 0) (h : y ^ 2 ≡ z ^ 2 [MOD fieldPrime]) : y = z := by
  wlog hle : y ≤ z generalizing y z
  · exact (this hz hy hzeven hyeven h.symm (by omega)).symm
  have hdvd : fieldPrime ∣ (z + y) * (z - y) := by
    rw [← Nat.sq_sub_sq]
    exact (Nat.modEq_iff_dvd' (Nat.pow_le_pow_left hle 2)).1 h
  have hodd : fieldPrime % 2 = 1 := by decide
  rcases prime_fieldPrime.dvd_mul.1 hdvd with hsum | hdifference
  · obtain ⟨factor, hfactor⟩ := hsum
    have hfactor_lt : factor < 2 := by
      by_contra hnot
      have : fieldPrime * 2 ≤ fieldPrime * factor := Nat.mul_le_mul_left _ (by omega)
      omega
    interval_cases factor <;> omega
  · have := Nat.eq_zero_of_dvd_of_lt hdifference (by omega)
    omega

/-! ## Points -/

/-- A point lies on the curve. -/
structure Point.IsOnCurve (p : Point) : Prop where
  x_lt : p.x < fieldPrime
  y_lt : p.y < fieldPrime
  equation : p.y ^ 2 ≡ p.x ^ 3 + 7 [MOD fieldPrime]

example : generator.IsOnCurve := ⟨by decide, by decide, by decide⟩

theorem cubic_modEq (x : Nat) : add (mul x (mul x x)) 7 ≡ x ^ 3 + 7 [MOD fieldPrime] := by
  have hsquare : mul x x ≡ x * x [MOD fieldPrime] := Nat.mod_modEq _ _
  calc
    add (mul x (mul x x)) 7 ≡ mul x (mul x x) + 7 [MOD fieldPrime] := Nat.mod_modEq _ _
    _ ≡ x * mul x x + 7 [MOD fieldPrime] := (Nat.mod_modEq _ _).add_right 7
    _ ≡ x * (x * x) + 7 [MOD fieldPrime] := (hsquare.mul_left x).add_right 7
    _ = x ^ 3 + 7 := by ring

theorem negated_modEq {y : Nat} (h : y < fieldPrime) :
    (fieldPrime - y) ^ 2 ≡ y ^ 2 [MOD fieldPrime] := by
  have hsum : fieldPrime - y + y = fieldPrime := by omega
  rcases Nat.le_total y (fieldPrime - y) with hle | hle
  · refine ((Nat.modEq_iff_dvd' (Nat.pow_le_pow_left hle 2)).2 ?_).symm
    rw [Nat.sq_sub_sq, hsum]
    exact dvd_mul_right _ _
  · refine (Nat.modEq_iff_dvd' (Nat.pow_le_pow_left hle 2)).2 ?_
    rw [Nat.sq_sub_sq, Nat.add_comm, hsum]
    exact dvd_mul_right _ _

theorem liftX?_sound {x : Nat} {p : Point} (h : liftX? x = some p) :
    p.x = x ∧ p.IsOnCurve ∧ p.y % 2 = 0 := by
  have hodd : fieldPrime % 2 = 1 := by decide
  rw [liftX?] at h
  split at h
  · cases h
  · next hx =>
    obtain ⟨y, hy, rfl⟩ := Option.map_eq_some_iff.1 h
    obtain ⟨hlt, hroot⟩ := sqrt?_sound hy
    have hequation := hroot.trans (cubic_modEq x)
    by_cases heven : y % 2 = 0
    · rw [if_pos heven]
      exact ⟨rfl, ⟨by simpa using hx, hlt, hequation⟩, heven⟩
    · rw [if_neg heven]
      refine ⟨rfl, ⟨by simpa using hx, ?_, (negated_modEq hlt).trans hequation⟩, ?_⟩
      · show fieldPrime - y < fieldPrime
        omega
      · show (fieldPrime - y) % 2 = 0
        omega

/-- A number names a point exactly if it is the first coordinate of a point of the curve. -/
theorem isSome_liftX?_iff (x : Nat) :
    (liftX? x).isSome = true ↔ ∃ p : Point, p.IsOnCurve ∧ p.x = x := by
  constructor
  · intro h
    obtain ⟨p, hp⟩ := Option.isSome_iff_exists.1 h
    obtain ⟨hx, hcurve, -⟩ := liftX?_sound hp
    exact ⟨p, hcurve, hx⟩
  · rintro ⟨p, hcurve, rfl⟩
    have hroot := isSome_sqrt? (hcurve.equation.trans (cubic_modEq p.x).symm)
    rw [liftX?, if_neg (by have := hcurve.x_lt; omega), Option.isSome_map]
    exact hroot

/-- It names the point whose second coordinate is even. -/
theorem liftX?_eq_some_iff {x : Nat} {p : Point} :
    liftX? x = some p ↔ p.x = x ∧ p.IsOnCurve ∧ p.y % 2 = 0 := by
  constructor
  · exact liftX?_sound
  · rintro ⟨hx, hcurve, heven⟩
    obtain ⟨q, hq⟩ := Option.isSome_iff_exists.1 ((isSome_liftX?_iff x).2 ⟨p, hcurve, hx⟩)
    obtain ⟨hqx, hqcurve, hqeven⟩ := liftX?_sound hq
    have hsquares : q.y ^ 2 ≡ p.y ^ 2 [MOD fieldPrime] := by
      have hequation := hcurve.equation
      rw [hx, ← hqx] at hequation
      exact hqcurve.equation.trans hequation.symm
    have hy := eq_of_root_of_even hqcurve.y_lt hcurve.y_lt hqeven heven hsquares
    have hqp : q = p := by
      cases q
      cases p
      simp_all
    rw [hq, hqp]

end ComputeDirectory.Crypto.Secp256k1
