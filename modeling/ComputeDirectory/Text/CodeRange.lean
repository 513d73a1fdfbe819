/-!
# Sets of code points

A set of code points is listed as closed ranges, in increasing order and apart. Properties of
characters are kept in such lists, each in a module of its own.
-/

namespace ComputeDirectory.Text

/-- Whether a code point lies in one of some closed ranges. -/
def isWithin (ranges : List (Nat × Nat)) (code : Nat) : Bool :=
  ranges.any fun r => r.1 ≤ code && code ≤ r.2

/-- Whether closed ranges stand in increasing order, with a gap between any two. -/
def areApart : List (Nat × Nat) → Bool
  | r :: s :: rest => r.1 ≤ r.2 && r.2 + 1 < s.1 && areApart (s :: rest)
  | [r] => r.1 ≤ r.2
  | [] => true

end ComputeDirectory.Text
