/-!
# Sets of characters by code point ranges

A property of characters is a list of ranges of code points, both ends included, in ascending
order. Membership stops at the first range that starts above the character, so that the common
characters, which come first, are decided at once.

* `CodePoints.contains_iff`: since the ranges ascend, this is membership in one of them.
-/

namespace Formula.Text

/-- Whether no range is empty, none starts below the bound, and each starts above the end of the
    one before it. -/
def ascendFrom (bound : Nat) : List (Nat × Nat) → Bool
  | [] => true
  | (lo, hi) :: rest => decide (bound ≤ lo) && decide (lo ≤ hi) && ascendFrom (hi + 1) rest

/-- Ranges of code points, both ends included, in ascending order. -/
structure CodePoints where
  ranges : List (Nat × Nat)
  ascend : ascendFrom 0 ranges = true

namespace CodePoints

/-- Whether `n` lies in one of the ranges, as far as they have to be looked at. -/
def inRanges (n : Nat) : List (Nat × Nat) → Bool
  | [] => false
  | (lo, hi) :: rest => if n < lo then false else decide (n ≤ hi) || inRanges n rest

/-- Whether the code point `n` lies in one of the ranges. -/
def contains (points : CodePoints) (n : Nat) : Bool := inRanges n points.ranges

theorem bound_le {bound : Nat} {ranges : List (Nat × Nat)} (ascend : ascendFrom bound ranges = true)
    {range : Nat × Nat} (member : range ∈ ranges) : bound ≤ range.1 := by
  induction ranges generalizing bound with
  | nil => cases member
  | cons first rest ih =>
    simp only [ascendFrom, Bool.and_eq_true, decide_eq_true_eq] at ascend
    rcases List.mem_cons.1 member with rfl | member
    · exact ascend.1.1
    · have := ih ascend.2 member
      omega

theorem inRanges_iff {bound : Nat} {ranges : List (Nat × Nat)}
    (ascend : ascendFrom bound ranges = true) (n : Nat) :
    inRanges n ranges = true ↔ ∃ range ∈ ranges, range.1 ≤ n ∧ n ≤ range.2 := by
  induction ranges generalizing bound with
  | nil => simp [inRanges]
  | cons first rest ih =>
    simp only [ascendFrom, Bool.and_eq_true, decide_eq_true_eq] at ascend
    by_cases low : n < first.1
    · simp only [inRanges, low, if_true, Bool.false_eq_true, false_iff, not_exists, not_and]
      intro range member start
      rcases List.mem_cons.1 member with rfl | member
      · omega
      · have := bound_le ascend.2 member
        omega
    · simp only [inRanges, low, if_false, Bool.or_eq_true, decide_eq_true_eq, ih ascend.2,
        List.mem_cons, exists_eq_or_imp, Nat.not_lt.1 low, true_and]

theorem contains_iff (points : CodePoints) (n : Nat) :
    points.contains n = true ↔ ∃ range ∈ points.ranges, range.1 ≤ n ∧ n ≤ range.2 :=
  inRanges_iff points.ascend n

end CodePoints

end Formula.Text
