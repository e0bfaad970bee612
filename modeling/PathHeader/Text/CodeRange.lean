/-! Sets of code points as lists of closed ranges. -/
namespace PathHeader.Text

abbrev CodeRange := Nat × Nat

namespace CodeRange

def anyContains (ranges : List CodeRange) (n : Nat) : Bool :=
  ranges.any fun range => range.1 ≤ n && n ≤ range.2

theorem anyContains_iff {ranges : List CodeRange} {n : Nat} :
    anyContains ranges n = true ↔ ∃ range ∈ ranges, range.1 ≤ n ∧ n ≤ range.2 := by
  simp [anyContains]

end CodeRange

end PathHeader.Text
