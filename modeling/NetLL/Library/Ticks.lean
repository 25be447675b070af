import Mathlib.Data.Int.ModEq

/-!
# Clocks that start over

A clock of a fixed width shows the time up to multiples of its cycle.  Two of
its values are compared by their difference, read as a signed number: a time is
past when the difference is negative.  Within half a cycle before and behind a
time the comparison is right, and over longer times it repeats itself.
-/

namespace Ticks

/-- The comparison with a time on a clock whose cycle has two such halves. -/
def Past (half : Nat) (deadline now : Int) : Prop :=
  (half : Int) ≤ (deadline - now) % (2 * half)

variable {half : Nat} {deadline now : Int}

/-- Only the shown values count. -/
theorem past_congr {shown reading : Int} (sameDeadline : shown ≡ deadline [ZMOD 2 * half])
    (sameNow : reading ≡ now [ZMOD 2 * half]) :
    Past half shown reading ↔ Past half deadline now := by
  have difference : shown - reading ≡ deadline - now [ZMOD 2 * half] := sameDeadline.sub sameNow
  unfold Past
  rw [difference.eq]

/-- Before a time that is near, it is not past. -/
theorem not_past (before : now ≤ deadline) (near : deadline - now < half) :
    ¬ Past half deadline now := by
  unfold Past
  rw [Int.emod_eq_of_lt (by omega) (by omega)]
  omega

end Ticks
