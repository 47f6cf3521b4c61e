import QueryFlow.Decimal.Binary

/-!
The shortest decimal that reads back as a given double, and its text. Among the decimals with the
fewest digits that round to the double, the one nearest to it is taken. The text is positional for
magnitudes from 0.0001 up to, but not including, 10 ^ 16, and has an exponent elsewhere.
-/

namespace QueryFlow.Decimal

/-- The decimal number `digits * 10 ^ exponent`. -/
structure Scaled where
  digits : Nat
  exponent : Int
  deriving Repr, DecidableEq

/-- The reals that round to a double, as numerators over one denominator; `closed` tells whether
the two ends belong to it. -/
structure Interval where
  low : Nat
  value : Nat
  high : Nat
  denominator : Nat
  closed : Bool

namespace Interval

/-- The rounding interval of a positive double. The gap below a power of two is half as wide. -/
def ofBinary (b : Binary) : Interval :=
  let m := b.significand
  let below := if m == Nat.pow 2 52 && b.exponent > -1074 then 1 else 2
  let e := b.exponent - 2
  let (scale, den) := if e ≥ 0 then (Nat.pow 2 e.toNat, 1) else (1, Nat.pow 2 (-e).toNat)
  ⟨(4 * m - below) * scale, 4 * m * scale, (4 * m + 2) * scale, den, m % 2 == 0⟩

/-- The fraction `num / den` rounds to the double. -/
def holds (i : Interval) (num den : Nat) : Bool :=
  let x := num * i.denominator
  if i.closed then i.low * den ≤ x && x ≤ i.high * den else i.low * den < x && x < i.high * den

end Interval

/-- The number of decimal places of the integer part: the least `k` with `num / den < 10 ^ k`,
where `k` is negative for small fractions. -/
def magnitudeTen (num den : Nat) : Int :=
  if num ≥ den then ((Nat.toDigits 10 (num / den)).length : Int)
  else
    let inverse := den / num
    let guess : Nat := (Nat.toDigits 10 inverse).length
    if num * Nat.pow 10 guess ≥ den * 10 then (2 : Int) - guess
    else if num * Nat.pow 10 guess ≥ den then (1 : Int) - guess else -(guess : Int)

/-- The fraction `n * 10 ^ e` as numerator and denominator. -/
def scaledFraction (n : Nat) (e : Int) : Nat × Nat :=
  if e ≥ 0 then (n * Nat.pow 10 e.toNat, 1) else (n, Nat.pow 10 (-e).toNat)

/-- The best decimal on the grid of step `10 ^ e`, if one of the two neighbours rounds back. -/
def onGrid? (i : Interval) (e : Int) : Option Scaled :=
  let (stepNum, stepDen) := scaledFraction 1 e
  let below := i.value * stepDen / (i.denominator * stepNum)
  let hit (n : Nat) : Bool :=
    let (num, den) := scaledFraction n e
    i.holds num den
  let rest := i.value * stepDen - below * (i.denominator * stepNum)
  let step := i.denominator * stepNum
  match hit below && below != 0, hit (below + 1) with
  | false, false => none
  | true, false => some ⟨below, e⟩
  | false, true => some ⟨below + 1, e⟩
  | true, true =>
    if 2 * rest < step then some ⟨below, e⟩
    else if step < 2 * rest then some ⟨below + 1, e⟩
    else some ⟨if below % 2 == 0 then below else below + 1, e⟩

/-- The decimal of fewest digits, at most 17, that reads back as the positive double. -/
def shortest (b : Binary) : Scaled :=
  let i := Interval.ofBinary b
  let k := magnitudeTen i.value i.denominator
  ((List.range 17).findSome? fun n : Nat => onGrid? i (k - Int.ofNat (n + 1))).getD ⟨0, 0⟩

/-- The digits of a number without the zeros at its end. -/
def significantDigits (n : Nat) : List Char :=
  ((Nat.toDigits 10 n).reverse.dropWhile (· == '0')).reverse

/-- The text of `0.DIGITS * 10 ^ point`, always with a mark of being no whole number. -/
def writeDigits (digits : List Char) (point : Int) : String :=
  if -3 ≤ point && point ≤ 16 then
    if point ≤ 0 then "0." ++ String.ofList (List.replicate (-point).toNat '0' ++ digits)
    else
      let k := point.toNat
      if digits.length ≤ k then
        String.ofList (digits ++ List.replicate (k - digits.length) '0') ++ ".0"
      else String.ofList (digits.take k) ++ "." ++ String.ofList (digits.drop k)
  else
    let e := point - 1
    let size := toString e.natAbs
    let mantissa := match digits with
      | [] => "0"
      | [d] => String.ofList [d]
      | d :: r => String.ofList (d :: '.' :: r)
    mantissa ++ "e" ++ (if e < 0 then "-" else "+")
      ++ (if size.length < 2 then "0" ++ size else size)

/-- The shortest text of a double that reads back as it. -/
def floatText (x : Float) : String :=
  match Binary.ofFloat? x with
  | none => if x.isNaN then "NaN" else if x < 0 then "-Infinity" else "Infinity"
  | some b =>
    let sign := if b.negative then "-" else ""
    if b.significand == 0 then sign ++ "0.0"
    else
      let s := shortest b
      let all := Nat.toDigits 10 s.digits
      sign ++ writeDigits (significantDigits s.digits) (all.length + s.exponent)

end QueryFlow.Decimal
