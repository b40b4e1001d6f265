/-!
# Character classes given by ranges

A class of characters is held as a list of closed ranges of code points.
-/

namespace CodeCursor.Text

/-- A closed range of code points, first and last. -/
abbrev CharRange := Nat × Nat

def covered (ranges : List CharRange) (code : Nat) : Bool :=
  ranges.any fun range => decide (range.1 ≤ code) && decide (code ≤ range.2)

theorem covered_iff {ranges : List CharRange} {code : Nat} :
    covered ranges code = true ↔ ∃ range ∈ ranges, range.1 ≤ code ∧ code ≤ range.2 := by
  simp [covered]

end CodeCursor.Text
