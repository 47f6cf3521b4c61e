import QueryFlow.Text.Blank

/-!
Reading decimal numbers. `float?` accepts blanks around the number, a sign, single underscores
between digits, an exponent, and the names of the infinities and of the undefined number.
-/

namespace QueryFlow.Decimal

open QueryFlow.Text

/-- Whole numbers of more digits than this are neither read from texts nor written as texts. -/
def digitLimit : Nat := 4300

/-- The double nearest to `digits * 10 ^ exponent`. Exponents far outside the range of doubles are
settled without computing the power. -/
def toFloat (digits : Nat) (exponent : Int) : Float :=
  let size : Int := ((Nat.toDigits 10 digits).length : Int) + exponent
  if digits == 0 then 0.0
  else if size > 400 then 1.0 / 0.0
  else if size < -400 then 0.0
  else if exponent ≥ 0 then Float.ofScientific (digits * Nat.pow 10 exponent.toNat) false 0
  else Float.ofScientific digits true (-exponent).toNat

/-- The largest whole number that still rounds to a finite double, plus one. -/
@[irreducible] def floatBound : Nat := Nat.pow 2 1024 - Nat.pow 2 970

/-- The double nearest to a whole number; none when it is too large for a finite one. -/
def ofInt? (n : Int) : Option Float :=
  if n.natAbs ≥ floatBound then none
  else
    let x := Float.ofScientific n.natAbs false 0
    some (if n < 0 then -x else x)

/-- The smallest whole number that has too many digits to be written. -/
@[irreducible] def textBound : Nat := Nat.pow 10 digitLimit

/-- The text of a whole number; none for a number of too many digits. -/
def intText? (n : Int) : Option String := if n.natAbs < textBound then some (toString n) else none

/-- A run of digits with single underscores between them, as ASCII digits, and the rest of the
text; `inside` tells whether a digit stands just before. -/
def digitRunFrom (inside : Bool) : List Char → List Char × List Char
  | [] => ([], [])
  | c :: r =>
    match digitValue? c with
    | some v =>
      let (ds, rest) := digitRunFrom true r
      (Char.ofNat (48 + v) :: ds, rest)
    | none =>
      if inside && c == '_' && (r.head?.bind digitValue?).isSome then digitRunFrom false r
      else ([], c :: r)

def digitRun (cs : List Char) : List Char × List Char := digitRunFrom false cs

def splitSign : List Char → Bool × List Char
  | '-' :: r => (true, r)
  | '+' :: r => (false, r)
  | r => (false, r)

/-- The exponent part of a number, which must be all that is left. -/
def exponent? : List Char → Option Int
  | [] => some 0
  | c :: r =>
    if c == 'e' || c == 'E' then
      let (negative, r) := splitSign r
      match digitRun r with
      | ([], _) => none
      | (ds, []) => some (if negative then -(digitsValue ds : Int) else digitsValue ds)
      | _ => none
    else none

/-- An unsigned decimal number in positional or exponent form. -/
def unsigned? (cs : List Char) : Option Float :=
  let (whole, rest) := digitRun cs
  let (part, rest) := match rest with
    | '.' :: r => digitRun r
    | r => ([], r)
  if whole.isEmpty && part.isEmpty then none
  else (exponent? rest).map fun e => toFloat (digitsValue (whole ++ part)) (e - part.length)

/-- The infinite and the undefined number by their names, in any letter case. -/
def named? (cs : List Char) : Option Float :=
  let word := String.ofList (cs.map Char.toLower)
  if word == "inf" || word == "infinity" then some (1.0 / 0.0)
  else if word == "nan" then some (0.0 / 0.0)
  else none

/-- The number that a text writes, blanks around it aside. -/
def float? (s : String) : Option Float :=
  let (negative, cs) := splitSign (strip s).toList
  ((named? cs) <|> unsigned? cs).map fun x => if negative then -x else x

end QueryFlow.Decimal
