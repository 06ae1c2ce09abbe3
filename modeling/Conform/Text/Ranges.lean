namespace Conform.Text

/-- The ranges are sorted, so the search ends at the first one that starts later. -/
def inRanges : List (Nat × Nat) → Nat → Bool
  | [], _ => false
  | (lo, hi) :: rest, c => if c < lo then false else c ≤ hi || inRanges rest c

end Conform.Text
