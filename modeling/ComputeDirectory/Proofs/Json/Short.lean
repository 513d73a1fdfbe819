import ComputeDirectory.Binary64.Rounding
import ComputeDirectory.Json.Basic

/-!
# Integers that can be written

An integer is written unless it has more than 4300 digits (`Json.isShort`). All that a binary64
number counts is shorter than that, and so is all of up to twenty digits; and what lies between two
integers that can be written can be written too.
-/

namespace ComputeDirectory.Json

theorem isShort_natCast (n : Nat) : isShort n = true ↔ n < tooManyDigitsFrom := by
  rw [isShort, decide_eq_true_eq, Int.natAbs_natCast]

theorem isShort_of_between {low n high : Int} (hlow : isShort low = true)
    (hhigh : isShort high = true) (habove : low ≤ n) (hbelow : n ≤ high) : isShort n = true := by
  simp only [isShort, decide_eq_true_eq] at *
  generalize tooManyDigitsFrom = bound at *
  omega

theorem overflow_lt_tooManyDigitsFrom : Binary64.overflow < tooManyDigitsFrom := by
  have hdigits : 2098 < maxDigits := by decide
  rw [tooManyDigitsFrom_eq]
  unfold Binary64.overflow
  generalize maxDigits = digits at hdigits ⊢
  generalize 2098 = k at hdigits ⊢
  exact Nat.lt_of_le_of_lt (Nat.pow_le_pow_left (by decide) k)
    (Nat.pow_lt_pow_right (by decide) hdigits)

/-- An integer in the range of binary64 can be written. -/
theorem isShort_of_natAbs_le_overflow {n : Int} (h : n.natAbs ≤ Binary64.overflow) :
    isShort n = true :=
  decide_eq_true (Nat.lt_of_le_of_lt h overflow_lt_tooManyDigitsFrom)

/-- An integer of up to twenty digits can be written. -/
theorem isShort_of_natAbs_lt {n : Int} (h : n.natAbs < Nat.pow 10 20) : isShort n = true := by
  have hdigits : Nat.pow 10 20 ≤ tooManyDigitsFrom := by decide
  exact decide_eq_true (Nat.lt_of_lt_of_le h hdigits)

end ComputeDirectory.Json
