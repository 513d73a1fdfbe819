import ComputeDirectory.Binary64.Rounding
import Mathlib

/-!
# Ceilings of rounded quotients

A quotient of two whole numbers is rounded on a grid whose step depends on its size (`spacing`).
Rounding does not pass a number of the grid, and leaves it behind as soon as the quotient exceeds it
by more than half a step (`rounded_le_of_dvd`, `lt_rounded_of_dvd`). Whole numbers of at most 53 bits
stand on every grid that is needed for them, and a quotient of two whole numbers exceeds the whole
number below it by so much, if its numerator has no more bits, that it is never rounded down to it.

So the ceiling of such a quotient is exact (`ceil?_quotient`), with one exception: a quotient of half
the least positive number or less is rounded to zero (`rounded_eq_zero_iff`).
-/

namespace ComputeDirectory.Binary64

variable {num den : Nat}

/-! ## The grid -/

theorem spacing_pos (units : Nat) : 0 < spacing units := Nat.pow_pos Nat.two_pos

/-- A step is a small part of every number in the same range of a power of two. -/
theorem spacing_mul_le {units m : Nat} (hlog : Nat.pow 2 units.log2 ≤ m) (hm : Nat.pow 2 52 ≤ m) :
    spacing units * Nat.pow 2 52 ≤ m := by
  rw [spacing, Nat.pow_eq, Nat.pow_eq, ← Nat.pow_add]
  rcases Nat.le_total 52 units.log2 with hle | hle
  · rwa [Nat.sub_add_cancel hle]
  · rwa [Nat.sub_eq_zero_of_le hle, Nat.zero_add]

/-- Rounding does not pass a number of the grid that the quotient does not pass. -/
theorem rounded_le_of_dvd {g : Nat} (hden : 0 < den) (hgrid : spacing (num / den) ∣ g)
    (h : num ≤ den * g) : rounded num den ≤ g := by
  obtain ⟨steps, rfl⟩ := hgrid
  rw [← Nat.mul_assoc] at h
  have hnear : nearestEven num (den * spacing (num / den)) ≤
      nearestEven (den * spacing (num / den) * steps) (den * spacing (num / den)) := nearestEven_mono h
  rw [nearestEven_mul (Nat.mul_pos hden (spacing_pos (num / den)))] at hnear
  rw [rounded, Nat.mul_comm (spacing (num / den))]
  exact Nat.mul_le_mul_right _ hnear

/-- A quotient that exceeds a number by more than half the denominator is rounded above it. -/
theorem lt_nearestEven {steps : Nat} (hden : 0 < den) (h : 2 * (den * steps) + den < 2 * num) :
    steps < nearestEven num den := by
  have hle : steps ≤ num / den := (Nat.le_div_iff_mul_le hden).2 (by rw [Nat.mul_comm]; omega)
  rcases Nat.lt_or_eq_of_le hle with hlt | heq
  · exact Nat.lt_of_lt_of_le hlt (nearestEven_bounds num den).1
  · have hsplit := Nat.div_add_mod num den
    rw [← heq] at hsplit
    simp only [nearestEven, ← heq]
    repeat' split
    all_goals omega

/-- A quotient that exceeds a number of the grid by more than half a step is rounded above it. -/
theorem lt_rounded_of_dvd {g : Nat} (hden : 0 < den) (hgrid : spacing (num / den) ∣ g)
    (h : 2 * (den * g) + den * spacing (num / den) < 2 * num) : g < rounded num den := by
  obtain ⟨steps, rfl⟩ := hgrid
  rw [← Nat.mul_assoc den] at h
  have hnear := lt_nearestEven (Nat.mul_pos hden (spacing_pos (num / den))) h
  rw [rounded, Nat.mul_comm (spacing (num / den))]
  exact Nat.mul_lt_mul_of_pos_right hnear (spacing_pos (num / den))

/-- A quotient is rounded to zero exactly if it is at most half of the least positive number. -/
theorem rounded_eq_zero_iff (hden : 0 < den) : rounded num den = 0 ↔ 2 * num ≤ den := by
  rcases Nat.lt_or_ge num den with hlt | hge
  · have hspacing : spacing (num / den) = 1 := by
      rw [spacing, Nat.div_eq_of_lt hlt, Nat.log2_zero]
    rw [rounded, hspacing, Nat.mul_one, Nat.mul_one]
    simp only [nearestEven, Nat.div_eq_of_lt hlt, Nat.mod_eq_of_lt hlt, Nat.zero_mod, if_true]
    repeat' split
    all_goals omega
  · have hquotient : num / den ≠ 0 := Nat.ne_of_gt (Nat.div_pos hge hden)
    have hlower := pow_le_rounded hden (Nat.log2_self_le hquotient) (Nat.sub_le ..)
    have hpos : 0 < Nat.pow 2 (num / den).log2 := Nat.pow_pos Nat.two_pos
    omega

/-! ## Whole numbers on the grid -/

/-- A multiple of a power of two by a number of at most 53 bits stands on the grid of every power of
two that is not above it. -/
theorem pow_dvd_mul_pow {n k e : Nat} (hn : n ≤ Nat.pow 2 53)
    (hk : Nat.pow 2 k ≤ n * Nat.pow 2 e) : Nat.pow 2 (k - 52) ∣ n * Nat.pow 2 e := by
  rcases Nat.lt_or_ge e (k - 52) with hcoarse | hfine
  · -- the number is `2 ^ 53`, and the multiple is the power of two
    have htop : n * Nat.pow 2 e ≤ Nat.pow 2 (53 + e) := by
      rw [Nat.pow_eq, Nat.pow_eq, Nat.pow_add]
      exact Nat.mul_le_mul_right _ hn
    have hpow : Nat.pow 2 (53 + e) ≤ Nat.pow 2 k := Nat.pow_le_pow_right Nat.two_pos (by omega)
    rw [Nat.le_antisymm (htop.trans hpow) hk]
    exact pow_dvd_pow 2 (Nat.sub_le ..)
  · exact Dvd.dvd.mul_left (pow_dvd_pow 2 hfine) n

section

variable {total size whole unit e : Nat} (hsize : 0 < size) (hunit : unit = Nat.pow 2 e)

include hsize hunit

/-- A quotient in units is not rounded beyond the whole number above it. -/
theorem rounded_le_whole (habove : total ≤ size * whole) (hwhole : whole ≤ Nat.pow 2 53) :
    rounded (total * unit) size ≤ whole * unit := by
  have hle : total * unit ≤ size * (whole * unit) := by
    rw [← Nat.mul_assoc]
    exact Nat.mul_le_mul_right unit habove
  refine rounded_le_of_dvd hsize ?_ hle
  by_cases hzero : total * unit / size = 0
  · rw [spacing, hzero, Nat.log2_zero]
    exact Nat.one_dvd _
  · have hlog := (Nat.log2_self_le hzero).trans (Nat.div_le_of_le_mul hle)
    rw [hunit] at hlog ⊢
    exact pow_dvd_mul_pow hwhole hlog

/-- Nor is it rounded to the whole number below it, which it exceeds by more than half a step. -/
theorem whole_lt_rounded (he : 52 ≤ e) (hbelow : size * whole < total)
    (htotal : total ≤ Nat.pow 2 53) (hwhole : 0 < whole) :
    whole * unit < rounded (total * unit) size := by
  have hunitPos : 0 < unit := by
    rw [hunit]
    exact Nat.pow_pos Nat.two_pos
  have hle : size * (whole * unit) + unit ≤ total * unit := by
    rw [← Nat.mul_assoc, ← Nat.succ_mul]
    exact Nat.mul_le_mul_right unit hbelow
  have hquotient : total * unit / size ≠ 0 := by
    have hsmall : size ≤ size * (whole * unit) :=
      Nat.le_mul_of_pos_right size (Nat.mul_pos hwhole hunitPos)
    exact Nat.ne_of_gt (Nat.div_pos (by omega) hsize)
  rcases Nat.lt_or_ge (whole * unit) (Nat.pow 2 (total * unit / size).log2) with hlt | hge
  · exact hlt.trans_le (pow_le_rounded hsize (Nat.log2_self_le hquotient) (Nat.sub_le ..))
  · -- both lie between the same powers of two, so the step is a small part of the whole number
    have hgrid : spacing (total * unit / size) ∣ whole * unit := by
      have hbits : whole ≤ Nat.pow 2 53 :=
        (Nat.le_mul_of_pos_left whole hsize).trans (hbelow.le.trans htotal)
      rw [hunit] at hge ⊢
      exact pow_dvd_mul_pow hbits hge
    have hlarge : Nat.pow 2 52 ≤ whole * unit := by
      rw [hunit]
      exact (Nat.pow_le_pow_right Nat.two_pos he).trans (Nat.le_mul_of_pos_left _ hwhole)
    have hhalf : size * spacing (total * unit / size) < 2 * unit := by
      refine Nat.lt_of_mul_lt_mul_right (a := Nat.pow 2 52) ?_
      calc size * spacing (total * unit / size) * Nat.pow 2 52
          = size * (spacing (total * unit / size) * Nat.pow 2 52) := Nat.mul_assoc ..
        _ ≤ size * (whole * unit) := Nat.mul_le_mul_left size (spacing_mul_le hge hlarge)
        _ < total * unit := by omega
        _ ≤ Nat.pow 2 53 * unit := Nat.mul_le_mul_right unit htotal
        _ = 2 * unit * Nat.pow 2 52 := by rw [Nat.pow_eq, Nat.pow_eq]; ring
    exact lt_rounded_of_dvd hsize hgrid (by omega)

end

/-! ## The ceiling -/

/-- A quotient above one whole number and not above the next one has the next one as its ceiling. -/
theorem ceil_div_eq {a b n : Nat} (hb : 0 < b) (hbelow : b * n < a) (habove : a ≤ b * (n + 1)) :
    ⌈(a : ℚ) / b⌉ = n + 1 := by
  have hpos : (0 : ℚ) < b := by exact_mod_cast hb
  rw [Int.ceil_eq_iff, lt_div_iff₀ hpos, div_le_iff₀ hpos]
  constructor
  · push_cast
    rw [add_sub_cancel_right, mul_comm]
    exact_mod_cast hbelow
  · rw [mul_comm]
    exact_mod_cast habove

/-- The ceiling of a number that is not negative. -/
theorem ceil?_finite (m : Magnitude) :
    (finite false m).ceil? = some ⌈(m.units : ℚ) / unitsPerOne⌉ :=
  congrArg some (Rat.ceil_intCast_div_natCast m.units unitsPerOne).symm

/-- What is rounded below the overflow is rounded to a finite number. -/
theorem roundQuotient_eq_finite {negative : Bool} (h : rounded num den < overflow) :
    roundQuotient negative num den = finite negative ⟨rounded num den, aligned_rounded num den, h⟩ :=
  dif_pos h

/-- The whole numbers next to a quotient are next to the rounded quotient, if that is not zero. -/
theorem rounded_bounds {total size whole : Nat} (hsize : 0 < size) (htotal : total ≤ Nat.pow 2 53)
    (hbelow : size * whole < total) (habove : total ≤ size * (whole + 1))
    (hunder : size < 2 * (total * unitsPerOne)) :
    unitsPerOne * whole < rounded (total * unitsPerOne) size ∧
      rounded (total * unitsPerOne) size ≤ unitsPerOne * (whole + 1) := by
  have hunits : unitsPerOne = Nat.pow 2 1074 := by decide +kernel
  rw [Nat.mul_comm unitsPerOne, Nat.mul_comm unitsPerOne]
  constructor
  · rcases Nat.eq_zero_or_pos whole with rfl | hwhole
    · rw [Nat.zero_mul, Nat.pos_iff_ne_zero, ne_eq, rounded_eq_zero_iff hsize]
      omega
    · exact whole_lt_rounded hsize hunits (by decide) hbelow htotal hwhole
  · have hbits : whole < total := (Nat.le_mul_of_pos_left whole hsize).trans_lt hbelow
    exact rounded_le_whole hsize hunits habove (hbits.trans_le htotal)

/-- The ceiling of a rounded quotient of two whole numbers, of which the first one has at most 53
bits, is exact; only a quotient of `2 ^ -1075` or less is taken for zero. -/
theorem ceil?_quotient {total size : Nat} (hsize : 0 < size) (htotal : total ≤ Nat.pow 2 53) :
    (quotient total size).ceil? =
      some (if size < 2 * (total * unitsPerOne) then ⌈(total : ℚ) / size⌉ else 0) := by
  have hfinite (h : rounded (total * unitsPerOne) size ≤ unitsPerOne * Nat.pow 2 53) :
      (quotient total size).ceil? =
        some ⌈(rounded (total * unitsPerOne) size : ℚ) / unitsPerOne⌉ := by
    have hrange : unitsPerOne * Nat.pow 2 53 < overflow := by decide +kernel
    rw [quotient, roundQuotient_eq_finite (h.trans_lt hrange), ceil?_finite]
  split
  · next hunder =>
    have hpos : 0 < total := by
      rw [Nat.pos_iff_ne_zero]
      rintro rfl
      omega
    -- the quotient lies above one whole number, and not above the next one
    obtain ⟨whole, hbelow, habove⟩ : ∃ whole, size * whole < total ∧ total ≤ size * (whole + 1) := by
      have hle := Nat.mul_div_le (total - 1) size
      have hlt := Nat.lt_mul_div_succ (total - 1) hsize
      exact ⟨(total - 1) / size, by omega, by omega⟩
    obtain ⟨hlower, hupper⟩ := rounded_bounds hsize htotal hbelow habove hunder
    have hbits : whole + 1 ≤ Nat.pow 2 53 :=
      ((Nat.le_mul_of_pos_left whole hsize).trans_lt hbelow).trans_le htotal
    rw [hfinite (hupper.trans (Nat.mul_le_mul_left unitsPerOne hbits)),
      ceil_div_eq (by decide +kernel) hlower hupper, ceil_div_eq hsize hbelow habove]
  · next hunder =>
    have hzero := (rounded_eq_zero_iff hsize).2 (Nat.not_lt.1 hunder)
    rw [hfinite (by rw [hzero]; exact Nat.zero_le _), hzero, Nat.cast_zero, zero_div, Int.ceil_zero]

end ComputeDirectory.Binary64
