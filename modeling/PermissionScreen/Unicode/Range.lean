/-!
Tables of code points. A property that many characters share is a list of closed ranges; a
property that alternates between neighbours, such as case, is a list of spans with a step.
-/

namespace PermissionScreen.Unicode

/-- Whether `c` lies in one of the closed ranges. -/
def inRanges (ranges : List (Nat × Nat)) (c : Nat) : Bool :=
  ranges.any fun range => range.1 ≤ c && c ≤ range.2

/-- Whether `c` is one of the code points `first`, `first + step`, … up to `last`. -/
def inSpan (first last step c : Nat) : Bool :=
  first ≤ c && c ≤ last && (c - first) % step == 0

theorem inRanges_iff {ranges : List (Nat × Nat)} {c : Nat} :
    inRanges ranges c = true ↔ ∃ range ∈ ranges, range.1 ≤ c ∧ c ≤ range.2 := by
  simp [inRanges]

end PermissionScreen.Unicode
