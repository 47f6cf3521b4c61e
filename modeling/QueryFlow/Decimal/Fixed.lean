import QueryFlow.Decimal.Binary

/-!
The text of a number with a fixed count of decimal places, rounded to nearest from its exact value.
-/

namespace QueryFlow.Decimal

/-- The text of `n / 10 ^ places`. -/
def placesText (n places : Nat) : String :=
  let whole := toString (n / Nat.pow 10 places)
  let part := toString (n % Nat.pow 10 places)
  if places == 0 then whole
  else whole ++ "." ++ String.ofList (List.replicate (places - part.length) '0') ++ part

/-- A double with the given count of decimal places; ties of its exact value go to even. -/
def fixedText (places : Nat) (x : Float) : String :=
  match Binary.ofFloat? x with
  | none => if x.isNaN then "nan" else if x < 0 then "-inf" else "inf"
  | some b =>
    let (num, den) := b.magnitude
    let n := roundEven (num * Nat.pow 10 places) den
    (if b.negative then "-" else "") ++ placesText n places

end QueryFlow.Decimal
