/-!
A finite double as sign, integer and power of two. The number it stands for is
`significand * 2 ^ exponent`, with the sign in front.
-/

namespace QueryFlow.Decimal

/-- The parts of a finite double. -/
structure Binary where
  negative : Bool
  significand : Nat
  exponent : Int
  deriving Repr, DecidableEq

namespace Binary

/-- The parts of the double with these bits; none for the infinities and for NaN. -/
def ofBits? (bits : Nat) : Option Binary :=
  let negative : Bool := bits / Nat.pow 2 63 % 2 == 1
  let biased : Nat := bits / Nat.pow 2 52 % Nat.pow 2 11
  let fraction : Nat := bits % Nat.pow 2 52
  if biased == 2047 then none
  else if biased == 0 then some ⟨negative, fraction, -1074⟩
  else some ⟨negative, Nat.pow 2 52 + fraction, Int.ofNat biased - 1075⟩

/-- The parts of a double; none for the infinities and for NaN. -/
def ofFloat? (x : Float) : Option Binary := ofBits? x.toBits.toNat

/-- The absolute value as a quotient of natural numbers. -/
def magnitude (b : Binary) : Nat × Nat :=
  if b.exponent ≥ 0 then (b.significand * Nat.pow 2 b.exponent.toNat, 1)
  else (b.significand, Nat.pow 2 (-b.exponent).toNat)

end Binary

/-- A quotient rounded to the nearest whole number; a tie goes to the even neighbour. -/
def roundEven (num den : Nat) : Nat :=
  let q := num / den
  let r := num % den
  if 2 * r < den then q else if den < 2 * r then q + 1 else if q % 2 == 0 then q else q + 1

end QueryFlow.Decimal
