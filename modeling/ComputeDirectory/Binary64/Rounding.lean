import ComputeDirectory.Binary64.Basic

/-!
# Laws of rounding

Main statement: `rounded_mono`, a greater quotient is never rounded to a smaller number. Two
quotients between the same powers of two are rounded on the same grid, where `nearestEven_mono` says
so; otherwise a power of two between them, which lies on both grids, keeps their rounded values
apart. What is in range stays in range when it is divided (`rounded_le_overflow`).
-/

namespace ComputeDirectory.Binary64

/-- On one grid a greater number is never rounded to a smaller one. -/
theorem nearestEven_mono {m n den : Nat} (h : m ≤ n) : nearestEven m den ≤ nearestEven n den := by
  have hbelow := (nearestEven_bounds m den).2
  have habove := (nearestEven_bounds n den).1
  rcases Nat.lt_or_eq_of_le (Nat.div_le_div_right (c := den) h) with hlt | heq
  · omega
  · have hrest : m % den ≤ n % den := by
      have hm := Nat.div_add_mod m den
      have hn := Nat.div_add_mod n den
      rw [← heq] at hn
      omega
    simp only [nearestEven, ← heq]
    repeat' split
    all_goals omega

/-- A number on the grid is rounded to itself. -/
theorem nearestEven_mul {den : Nat} (hden : 0 < den) (n : Nat) : nearestEven (den * n) den = n := by
  simp [nearestEven, hden]

/-- What lies below a power of two is rounded to that power at most. -/
theorem rounded_le_pow {num den k : Nat} (hden : 0 < den) (h : num / den < Nat.pow 2 k)
    (hk : (num / den).log2 - 52 ≤ k) : rounded num den ≤ Nat.pow 2 k := by
  generalize hs : (num / den).log2 - 52 = s at hk
  have hpow : Nat.pow 2 s * Nat.pow 2 (k - s) = Nat.pow 2 k := by
    simp only [Nat.pow_eq, ← Nat.pow_add]
    congr 1
    omega
  have hpos : 0 < den * Nat.pow 2 s := Nat.mul_pos hden (Nat.pow_pos (by decide))
  have hnum : num ≤ den * Nat.pow 2 s * Nat.pow 2 (k - s) := by
    rw [Nat.mul_assoc, hpow, Nat.mul_comm]
    exact Nat.le_of_lt ((Nat.div_lt_iff_lt_mul hden).1 h)
  have hnear := @nearestEven_mono _ _ (den * Nat.pow 2 s) hnum
  rw [nearestEven_mul hpos] at hnear
  simp only [rounded, spacing, hs, ← hpow]
  rw [Nat.mul_comm (Nat.pow 2 s)]
  exact Nat.mul_le_mul_right _ hnear

/-- What lies at a power of two or above is rounded to that power at least. -/
theorem pow_le_rounded {num den k : Nat} (hden : 0 < den) (h : Nat.pow 2 k ≤ num / den)
    (hk : (num / den).log2 - 52 ≤ k) : Nat.pow 2 k ≤ rounded num den := by
  generalize hs : (num / den).log2 - 52 = s at hk
  have hpow : Nat.pow 2 s * Nat.pow 2 (k - s) = Nat.pow 2 k := by
    simp only [Nat.pow_eq, ← Nat.pow_add]
    congr 1
    omega
  have hpos : 0 < den * Nat.pow 2 s := Nat.mul_pos hden (Nat.pow_pos (by decide))
  have hnum : den * Nat.pow 2 s * Nat.pow 2 (k - s) ≤ num := by
    rw [Nat.mul_assoc, hpow, Nat.mul_comm]
    exact (Nat.le_div_iff_mul_le hden).1 h
  have hnear := @nearestEven_mono _ _ (den * Nat.pow 2 s) hnum
  rw [nearestEven_mul hpos] at hnear
  simp only [rounded, spacing, hs, ← hpow]
  rw [Nat.mul_comm (Nat.pow 2 s)]
  exact Nat.mul_le_mul_right _ hnear

/-- The greater of two numbers whose binary orders differ has the greater order. -/
theorem lt_of_log2_sub_ne {a b c : Nat} (h : a ≤ b) (hne : a.log2 - c ≠ b.log2 - c) :
    a.log2 < b.log2 := by
  rcases Nat.lt_or_ge a.log2 b.log2 with hlt | hge
  · exact hlt
  · have hzero : a ≠ 0 := by
      rintro rfl
      rw [Nat.log2_zero] at hge hne
      omega
    have hb := @Nat.lt_log2_self b
    have ha := Nat.log2_self_le hzero
    have hpow : Nat.pow 2 (b.log2 + 1) ≤ Nat.pow 2 a.log2 :=
      Nat.pow_le_pow_right (by decide) (by omega)
    simp only [Nat.pow_eq] at hpow
    omega

/-- A greater quotient is never rounded to a smaller number. -/
theorem rounded_mono {m n den : Nat} (hden : 0 < den) (h : m ≤ n) :
    rounded m den ≤ rounded n den := by
  have hquot : m / den ≤ n / den := Nat.div_le_div_right h
  by_cases hspacing : (m / den).log2 - 52 = (n / den).log2 - 52
  · simp only [rounded, spacing, hspacing]
    exact Nat.mul_le_mul_right _ (nearestEven_mono h)
  · have hlog := lt_of_log2_sub_ne hquot hspacing
    have hzero : n / den ≠ 0 := by
      intro hzero
      rw [hzero, Nat.log2_zero] at hlog
      omega
    have hupper : rounded m den ≤ Nat.pow 2 ((m / den).log2 + 1) :=
      rounded_le_pow hden Nat.lt_log2_self (by omega)
    have hlower : Nat.pow 2 (n / den).log2 ≤ rounded n den :=
      pow_le_rounded hden (Nat.log2_self_le hzero) (by omega)
    exact Nat.le_trans hupper
      (Nat.le_trans (Nat.pow_le_pow_right (by decide) hlog) hlower)

/-! ## The range -/

/-- A quotient is rounded to a finite number only if it is rounded below the overflow. -/
theorem rounded_lt_of_isFinite {negative : Bool} {num den : Nat}
    (h : (roundQuotient negative num den).isFinite = true) : rounded num den < overflow := by
  unfold roundQuotient at h
  by_cases hin : rounded num den < overflow
  · exact hin
  · simp only [dif_neg hin] at h
    cases h

/-- An integer is in range only if rounding it gives a finite number. -/
theorem isFinite_of_ofInt? {n : Int} (h : (ofInt? n).isSome = true) :
    (roundQuotient (n < 0) (n.natAbs * unitsPerOne) 1).isFinite = true := by
  -- unfolded as a function: at an argument, checking the step would compute the rounded number
  have hfun : ofInt? = ofInt? := rfl
  conv at hfun => rhs; delta ofInt?
  rw [hfun] at h
  generalize roundQuotient = round at h ⊢
  cases hx : round (n < 0) (n.natAbs * unitsPerOne) 1 with
  | nan => simp only [hx] at h; cases h
  | infinity negative => simp only [hx] at h; cases h
  | finite negative magnitude => rfl

/-- Dividing does not lead beyond the overflow. -/
theorem rounded_le_overflow {num den : Nat} (hden : 0 < den) (h : num < overflow) :
    rounded num den ≤ overflow := by
  unfold overflow at h ⊢
  generalize 2098 = k at h ⊢
  have hquotient : num / den < Nat.pow 2 k := Nat.lt_of_le_of_lt (Nat.div_le_self ..) h
  have hlog : (num / den).log2 ≤ k := by
    rcases Nat.eq_zero_or_pos (num / den) with hzero | hpos
    · rw [hzero, Nat.log2_zero]
      exact Nat.zero_le _
    · exact Nat.le_of_lt ((Nat.log2_lt (Nat.ne_of_gt hpos)).2 hquotient)
  exact rounded_le_pow hden hquotient (Nat.le_trans (Nat.sub_le ..) hlog)

end ComputeDirectory.Binary64
