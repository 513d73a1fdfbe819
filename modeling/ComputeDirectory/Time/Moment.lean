import ComputeDirectory.Binary64.Rounding

/-!
# Moments

A `Moment` is what the clock of the directory shows: microseconds since the start of 1970, in UTC.
The clock may show any number of them, but only moments of the years 1 to 9999 can be written down,
and only spans of limited length can be counted in days. `Moment.placed` finds out whether a moment
can be worked with, and `Moment.placed_eq_ok_iff` says that those of the calendar can, and no other.

A `SecondClock` reads whole seconds off a moment, or cannot. It never shows less at a later moment,
and for the clock that counts in binary64 this is the law `Binary64.rounded_mono`; that clock can be
read exactly as long as the microseconds are in the range of binary64 (`truncated_read_eq_ok_iff`).
-/

namespace ComputeDirectory

/-- Microseconds since the start of 1970, in UTC. -/
abbrev Moment := Int

namespace Moment

/-- Whole seconds since the start of 1970; the fraction is dropped downwards. -/
def seconds (now : Moment) : Int := now / 1000000

/-- The moment of a number of seconds. -/
def ofSeconds (seconds : Int) : Moment := seconds * 1000000

/-- The moment a number of seconds later. -/
def after (now : Moment) (seconds : Int) : Moment := now + ofSeconds seconds

/-- Microseconds of a day. -/
def dayLength : Int := 86400000000

theorem seconds_mono {m n : Moment} (h : m ≤ n) : m.seconds ≤ n.seconds :=
  Int.ediv_le_ediv (by decide) h

/-! ## Moments of the calendar -/

/-- Why a moment or a span of time cannot be worked with. -/
inductive Fault
  /-- The moment lies outside the years 1 to 9999. -/
  | outOfCalendar
  /-- The span has more days than are counted. -/
  | spanTooLong (days : Int)
  /-- The span has more days than a 32-bit integer holds. -/
  | spanBeyondWord
  /-- The moment has more microseconds than binary64 numbers reach. -/
  | beyondBinary64
  deriving DecidableEq, Repr

/-- A span of microseconds, if its days can be counted: they have to fit a 32-bit integer, and there
may be at most 999999999 of them. -/
def checkSpan (span : Int) : Except Fault Int :=
  let days := span / dayLength
  if days < -2147483648 ∨ 2147483647 < days then .error .spanBeyondWord
  else if 999999999 < days.natAbs then .error (.spanTooLong days)
  else .ok span

/-- Whether a moment lies in the years 1 to 9999. -/
def isInCalendar (moment : Moment) : Bool :=
  -62135596800 ≤ moment.seconds && moment.seconds < 253402300800

/-- A moment, if it lies in the years 1 to 9999. -/
def checkCalendar (moment : Moment) : Except Fault Moment :=
  if moment.isInCalendar then .ok moment else .error .outOfCalendar

/-- A moment that can be written down. The days since 1970 are counted first. -/
def placed (now : Moment) : Except Fault Moment := do
  let span ← checkSpan now
  checkCalendar span

theorem checkSpan_of_isInCalendar {moment : Int} (h : isInCalendar moment = true) :
    checkSpan moment = .ok moment := by
  have hseconds : seconds moment = moment / 1000000 := rfl
  simp only [isInCalendar, Bool.and_eq_true, decide_eq_true_eq] at h
  have hword : ¬ (moment / dayLength < -2147483648 ∨ 2147483647 < moment / dayLength) := by
    unfold dayLength
    omega
  have hcount : ¬ 999999999 < (moment / dayLength).natAbs := by
    unfold dayLength
    omega
  simp only [checkSpan, hword, hcount, if_false]

/-- The moments that can be written down are those of the calendar. -/
theorem placed_eq_ok_iff {now m : Moment} :
    now.placed = .ok m ↔ m = now ∧ now.isInCalendar = true := by
  by_cases h : now.isInCalendar = true
  · simp [placed, checkSpan_of_isInCalendar h, checkCalendar, h, bind, Except.bind, eq_comm]
  · simp only [placed, checkSpan]
    split
    · simp [bind, Except.bind, h]
    · split <;> simp [bind, Except.bind, checkCalendar, h]

end Moment

/-! ## Clocks of whole seconds -/

/-- A clock that shows whole seconds; it never shows less at a later moment. -/
structure SecondClock where
  /-- The seconds at a moment, or why the clock cannot be read then. -/
  read : Moment → Except Moment.Fault Int
  read_mono : ∀ {m n : Moment} {s t : Int}, m ≤ n → read m = .ok s → read n = .ok t → s ≤ t

namespace SecondClock

/-- The clock that drops the fraction of a second downwards. It can always be read. -/
def floored : SecondClock where
  read now := .ok now.seconds
  read_mono := by
    rintro m n s t h ⟨⟩ ⟨⟩
    exact Moment.seconds_mono h

/-- The whole seconds of some microseconds, counted in binary64: the microseconds are rounded to a
number with 53 significant bits, so is their quotient by a million, and its fraction is dropped. -/
def binary64Seconds (micros : Nat) : Nat :=
  Binary64.rounded (Binary64.rounded (micros * Binary64.unitsPerOne) 1) 1000000 /
    Binary64.unitsPerOne

theorem binary64Seconds_mono {m n : Nat} (h : m ≤ n) : binary64Seconds m ≤ binary64Seconds n :=
  Nat.div_le_div_right (Binary64.rounded_mono (by decide)
    (Binary64.rounded_mono (by decide) (Nat.mul_le_mul_right _ h)))

/-- The whole seconds of some microseconds, before or after the start of 1970. -/
def truncatedSeconds (micros : Int) : Int :=
  if micros < 0 then -(binary64Seconds micros.natAbs : Int) else binary64Seconds micros.natAbs

theorem truncatedSeconds_mono {m n : Int} (h : m ≤ n) :
    truncatedSeconds m ≤ truncatedSeconds n := by
  unfold truncatedSeconds
  split <;> split
  · have := binary64Seconds_mono (m := n.natAbs) (n := m.natAbs) (by omega)
    omega
  · omega
  · omega
  · have := binary64Seconds_mono (m := m.natAbs) (n := n.natAbs) (by omega)
    omega

/-- The clock that counts seconds in binary64 and drops their fraction towards the start of 1970. It
cannot be read when the microseconds are out of the range of binary64. -/
def truncated : SecondClock where
  read now := if (Binary64.ofInt? now).isSome then .ok (truncatedSeconds now)
    else .error .beyondBinary64
  read_mono := by
    intro m n s t h hm hn
    split at hm <;> simp only [reduceCtorEq, Except.ok.injEq] at hm
    split at hn <;> simp only [reduceCtorEq, Except.ok.injEq] at hn
    rw [← hm, ← hn]
    exact truncatedSeconds_mono h

/-- The clock that counts in binary64 can be read while the microseconds are in range. -/
theorem truncated_read_eq_ok_iff {now : Moment} {s : Int} :
    truncated.read now = .ok s ↔
      (Binary64.ofInt? now).isSome = true ∧ s = truncatedSeconds now := by
  by_cases h : (Binary64.ofInt? now).isSome = true
  · simp only [truncated, h, if_true, Except.ok.injEq, true_and]
    exact eq_comm
  · simp [truncated, h]

end SecondClock

end ComputeDirectory
