/-!
Sets of numbers by the bounds at which they begin and end in turn.
-/

namespace QueryFlow.Text

/-- The number lies in a range: as many bounds that begin a range as bounds that end one, and one
more, are not above it. -/
def within (bounds : List Nat) (n : Nat) : Bool := bounds.countP (· ≤ n) % 2 == 1

@[simp] theorem within_nil (n : Nat) : within [] n = false := rfl

/-- One pair of bounds holds the numbers from the first bound up to the second one. -/
theorem within_pair {low high : Nat} (h : low ≤ high) (n : Nat) :
    within [low, high] n = (decide (low ≤ n) && decide (n < high)) := by
  by_cases h₁ : low ≤ n <;> by_cases h₂ : high ≤ n <;> grind [within]

end QueryFlow.Text
