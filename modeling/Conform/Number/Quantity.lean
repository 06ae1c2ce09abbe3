namespace Conform

/-- A number as it is compared; an undefined one compares with none. -/
inductive Quantity where
  | undefined
  | below
  | exact (value : Rat)
  | above
deriving DecidableEq

namespace Quantity

/-- An undefined quantity differs from every quantity, itself included. -/
def equal : Quantity → Quantity → Bool
  | .exact a, .exact b => a == b
  | .below, .below => true
  | .above, .above => true
  | _, _ => false

theorem equal_iff {a b : Quantity} : a.equal b = true ↔ a = b ∧ a ≠ .undefined := by
  cases a <;> cases b <;> simp [equal]

def less : Quantity → Quantity → Bool
  | .exact a, .exact b => decide (a < b)
  | .below, .exact _ => true
  | .below, .above => true
  | .exact _, .above => true
  | _, _ => false

def atMost (a b : Quantity) : Bool :=
  less a b || equal a b

def isWhole : Quantity → Bool
  | .exact q => q.den == 1
  | _ => false

end Quantity
end Conform
