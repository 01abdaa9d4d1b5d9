namespace Folio.Text

/-- Closed ranges of code points, in increasing order. -/
abbrev Ranges := List (Nat × Nat)

def Ranges.has (ranges : Ranges) (n : Nat) : Bool :=
  ranges.any fun range => range.1 ≤ n && n ≤ range.2

theorem Ranges.has_iff {ranges : Ranges} {n : Nat} :
    ranges.has n = true ↔ ∃ range ∈ ranges, range.1 ≤ n ∧ n ≤ range.2 := by
  simp [Ranges.has, List.any_eq_true]

end Folio.Text
