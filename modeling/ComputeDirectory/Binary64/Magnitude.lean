/-!
# Magnitudes of binary64 numbers

A finite binary64 number is a whole multiple of `2 ^ -1074` with 53 significant bits at most. A
`Magnitude` counts that unit, and carries the proof that a binary64 number has it: there is room for
its last significant bit (`aligned`), and it is in range.

`rounded` goes to the nearest number with 53 significant bits, a tie going to the even one. What it
gives is aligned (`aligned_rounded`); it is a magnitude unless it lies beyond the range.
-/

namespace ComputeDirectory.Binary64

/-- How many units of `2 ^ -1074` make one. -/
def unitsPerOne : Nat := Nat.pow 2 1074

/-- The least magnitude that is out of range: `2 ^ 1024` in units of `2 ^ -1074`. -/
def overflow : Nat := Nat.pow 2 2098

/-- The spacing of the numbers with 53 significant bits around a number of units. -/
def spacing (units : Nat) : Nat := Nat.pow 2 (units.log2 - 52)

/-- The magnitude of a finite binary64 number. -/
structure Magnitude where
  /-- How many units of `2 ^ -1074` it is. -/
  units : Nat
  aligned : spacing units ∣ units
  inRange : units < overflow
  deriving DecidableEq, Repr

theorem overflow_pos : 0 < overflow := by
  unfold overflow
  generalize 2098 = k
  exact Nat.pow_pos (by decide)

/-- No unit at all. -/
def Magnitude.zero : Magnitude := ⟨0, Nat.dvd_zero _, overflow_pos⟩

instance : Inhabited Magnitude := ⟨.zero⟩

/-! ## Rounding -/

/-- The whole number nearest to `num / den`, a tie going to the even one. -/
def nearestEven (num den : Nat) : Nat :=
  let whole := num / den
  let rest := num % den
  if 2 * rest < den then whole
  else if den < 2 * rest then whole + 1
  else if whole % 2 = 0 then whole
  else whole + 1

/-- The quotient `num / den`, rounded to a multiple of the power of two that leaves 53 significant
bits. -/
def rounded (num den : Nat) : Nat :=
  nearestEven num (den * spacing (num / den)) * spacing (num / den)

/-- Rounding goes to one of the two neighbours on the grid. -/
theorem nearestEven_bounds (num den : Nat) :
    num / den ≤ nearestEven num den ∧ nearestEven num den ≤ num / den + 1 := by
  simp only [nearestEven]
  repeat' split
  all_goals omega

/-- A number has 53 significant bits in steps of its spacing. -/
theorem div_spacing_lt (units : Nat) : units / spacing units < Nat.pow 2 53 := by
  unfold spacing
  refine (Nat.div_lt_iff_lt_mul (Nat.pow_pos (by decide))).2 ?_
  have hpow : Nat.pow 2 (units.log2 + 1) ≤ Nat.pow 2 (53 + (units.log2 - 52)) :=
    Nat.pow_le_pow_right (by decide) (by omega)
  calc
    units < Nat.pow 2 (units.log2 + 1) := Nat.lt_log2_self
    _ ≤ Nat.pow 2 (53 + (units.log2 - 52)) := hpow
    _ = Nat.pow 2 53 * Nat.pow 2 (units.log2 - 52) := Nat.pow_add 2 53 _

/-- Up to `2 ^ 53` steps of a power of two have a spacing that fits. -/
theorem spacing_mul_pow_dvd {count : Nat} (s : Nat) (h : count ≤ Nat.pow 2 53) :
    spacing (count * Nat.pow 2 s) ∣ count * Nat.pow 2 s := by
  rcases Nat.eq_zero_or_pos count with rfl | hpos
  · rw [Nat.zero_mul]
    exact Nat.dvd_zero _
  have hne : count * Nat.pow 2 s ≠ 0 :=
    Nat.ne_of_gt (Nat.mul_pos hpos (Nat.pow_pos (by decide)))
  rcases Nat.lt_or_eq_of_le h with hlt | rfl
  · have hlog : (count * Nat.pow 2 s).log2 < 53 + s := by
      refine (Nat.log2_lt hne).2 ?_
      show _ < Nat.pow 2 (53 + s)
      calc
        count * Nat.pow 2 s < Nat.pow 2 53 * Nat.pow 2 s :=
          Nat.mul_lt_mul_of_pos_right hlt (Nat.pow_pos (by decide))
        _ = Nat.pow 2 (53 + s) := (Nat.pow_add 2 53 s).symm
    have hstep : Nat.pow 2 ((count * Nat.pow 2 s).log2 - 52) ∣ Nat.pow 2 s :=
      Nat.pow_dvd_pow 2 (by omega)
    exact Nat.dvd_trans hstep (Nat.dvd_mul_left ..)
  · -- the next power of two is reached: all of it is one significant bit
    have hpow : Nat.pow 2 53 * Nat.pow 2 s = Nat.pow 2 (53 + s) := (Nat.pow_add 2 53 s).symm
    rw [hpow] at hne ⊢
    have hlog : (Nat.pow 2 (53 + s)).log2 < 53 + s + 1 := by
      refine (Nat.log2_lt hne).2 ?_
      show _ < Nat.pow 2 (53 + s + 1)
      exact Nat.pow_lt_pow_right (by decide) (Nat.lt_succ_self _)
    exact Nat.pow_dvd_pow 2 (by omega)

theorem aligned_rounded (num den : Nat) : spacing (rounded num den) ∣ rounded num den := by
  refine spacing_mul_pow_dvd _ ?_
  have hsteps := div_spacing_lt (num / den)
  have hnear := (nearestEven_bounds num (den * spacing (num / den))).2
  rw [Nat.div_div_eq_div_mul] at hsteps
  exact Nat.le_trans hnear hsteps

end ComputeDirectory.Binary64
