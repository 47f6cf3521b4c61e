/-!
Patterns of text with gaps for operands. A mark is a sign and a number: a dollar sign stands for the
text of an operand, a percent sign for the same text with parentheses around an operation, and an at
sign for all operands from that one on. A doubled sign stands for itself.
-/

namespace QueryFlow.Sql.Phrase

structure Filling where
  text : String
  isOperation : Bool := false
  deriving Repr, DecidableEq

def Filling.shielded (f : Filling) : String :=
  if f.isOperation then "(" ++ f.text ++ ")" else f.text

/-- The text for a mark, given how many fillings stand before the one it names. -/
def markText (fillings : List Filling) (sign : Char) (before : Nat) : String :=
  let named := fillings.drop before
  if sign == '@' then ", ".intercalate (named.map (·.text))
  else match named with
    | f :: _ => if sign == '%' then f.shielded else f.text
    | [] => ""

def isSign (c : Char) : Bool := c == '$' || c == '%' || c == '@'

/-- The characters of a pattern whose gaps are filled, behind the start of a mark: its sign and its
number so far. -/
def fillFrom (fillings : List Filling) : Option (Char × Nat) → List Char → List Char
  | none, [] => []
  | none, c :: r =>
    if isSign c then fillFrom fillings (some (c, 0)) r else c :: fillFrom fillings none r
  | some (sign, n), [] => if n == 0 then [sign] else (markText fillings sign (n - 1)).toList
  | some (sign, n), c :: r =>
    if c.isDigit && (0 < n || c != '0') then
      fillFrom fillings (some (sign, 10 * n + (c.toNat - '0'.toNat))) r
    else if n == 0 && c == sign then c :: fillFrom fillings none r
    else
      (if n == 0 then [sign] else (markText fillings sign (n - 1)).toList) ++
        if isSign c then fillFrom fillings (some (c, 0)) r else c :: fillFrom fillings none r

def fill (fillings : List Filling) (pattern : String) : String :=
  String.ofList (fillFrom fillings none pattern.toList)

/-- A pattern that stands for this text and has no gaps. -/
def literal (s : String) : String :=
  String.ofList (s.toList.flatMap fun c => if isSign c then [c, c] else [c])

end QueryFlow.Sql.Phrase
