/-!
# Tables of code point ranges

Classes of characters are stored as ascending lists of closed ranges.

* `inRanges` looks a code point up; `inRanges_iff` says that it finds exactly the members.
-/

namespace Stencil.Text

/-- Whether `n` lies in one of the closed ranges. -/
def inRanges (ranges : List (Nat × Nat)) (n : Nat) : Bool :=
  ranges.any fun r => r.1 ≤ n && n ≤ r.2

theorem inRanges_iff {ranges : List (Nat × Nat)} {n : Nat} :
    inRanges ranges n = true ↔ ∃ r ∈ ranges, r.1 ≤ n ∧ n ≤ r.2 := by
  simp [inRanges]

end Stencil.Text
