import QueryFlow.Json.Basic
import QueryFlow.Decimal.Binary
import QueryFlow.Decimal.Read
import QueryFlow.Text.Case

/-!
Reading records from JSON values. A value is checked as a whole: every problem is reported, with the
place where it is, in the order of the fields and items. Numbers and truth values are also read from
texts that write them.
-/

namespace QueryFlow.Form

open QueryFlow.Text

/-- What can be wrong with a value. -/
inductive ProblemKind where
  | missing
  | stringType
  | intType | intParsing | intFromFloat | intParsingSize | finiteNumber
  | floatType | floatParsing
  | boolType | boolParsing
  | listType | dictType
  | modelType | modelAttributesType
  | literalError
  | unionTagNotFound | unionTagInvalid
  | greaterThan | greaterThanEqual
  | valueError
  | jsonInvalid
  deriving Repr, DecidableEq

def ProblemKind.name : ProblemKind → String
  | missing => "missing"
  | stringType => "string_type"
  | intType => "int_type"
  | intParsing => "int_parsing"
  | intFromFloat => "int_from_float"
  | intParsingSize => "int_parsing_size"
  | finiteNumber => "finite_number"
  | floatType => "float_type"
  | floatParsing => "float_parsing"
  | boolType => "bool_type"
  | boolParsing => "bool_parsing"
  | listType => "list_type"
  | dictType => "dict_type"
  | modelType => "model_type"
  | modelAttributesType => "model_attributes_type"
  | literalError => "literal_error"
  | unionTagNotFound => "union_tag_not_found"
  | unionTagInvalid => "union_tag_invalid"
  | greaterThan => "greater_than"
  | greaterThanEqual => "greater_than_equal"
  | valueError => "value_error"
  | jsonInvalid => "json_invalid"

/-- A step towards a part of a value. -/
inductive Step where
  | key (name : String)
  | index (n : Nat)
  deriving Repr, DecidableEq

def Step.toJson : Step → Json
  | .key name => .string name
  | .index n => .int n

structure Problem where
  kind : ProblemKind
  place : List Step := []
  deriving Repr, DecidableEq

/-- The problem as seen from one step further out. -/
def Problem.under (s : Step) (p : Problem) : Problem := { p with place := s :: p.place }

def Problem.text (p : Problem) : String :=
  ".".intercalate (p.place.map fun
    | .key name => name
    | .index n => toString n) ++ ": " ++ p.kind.name

/-- A value that has been read, or all problems with it. -/
abbrev Checked (α : Type) := Except (List Problem) α

variable {α β : Type}

def refuse (kind : ProblemKind) : Checked α := .error [⟨kind, []⟩]

/-- What a part reads as, with its problems seen from the whole. -/
def under (s : Step) : Checked α → Checked α
  | .ok a => .ok a
  | .error ps => .error (ps.map (Problem.under s))

/-- Apply what was read so far to one more part; the problems of both are kept. -/
def also (f : Checked (α → β)) (x : Checked α) : Checked β :=
  match f, x with
  | .ok f, .ok a => .ok (f a)
  | .ok _, .error ps => .error ps
  | .error ps, .ok _ => .error ps
  | .error ps, .error qs => .error (ps ++ qs)

def string : Json → Checked String
  | .string s => .ok s
  | _ => refuse .stringType

/-- A blank that may stand around a number. -/
def isMargin (c : Char) : Bool := isBlank c && !(28 ≤ c.toNat && c.toNat ≤ 31)

/-- The text without margins at either end. -/
def trimmed (cs : List Char) : List Char :=
  ((cs.dropWhile isMargin).reverse.dropWhile isMargin).reverse

/-- The digits of a whole number with single underscores between them. -/
def wholeDigits? (inside : Bool) : List Char → Option (List Char)
  | [] => if inside then some [] else none
  | c :: r =>
    if isDigit c then (wholeDigits? true r).map (c :: ·)
    else if c == '_' && inside then wholeDigits? false r
    else none

/-- The sign and the digits of the whole number that a text writes, without zeros in front. A
fraction of nothing but zeros is allowed. -/
def wholeOfText? (s : String) : Option (Bool × List Char) :=
  let (negative, cs) := Decimal.splitSign (trimmed s.toList)
  let (whole, fraction) := cs.span (· != '.')
  let fits := match fraction with
    | [] => true
    | _ :: ds => !ds.isEmpty && ds.all (· == '0')
  if fits then (wholeDigits? false whole).map fun ds => (negative, ds.dropWhile (· == '0'))
  else none

def intOfText (s : String) : Checked Int :=
  match wholeOfText? s with
  | none => refuse .intParsing
  | some (negative, ds) =>
    if ds.length > Decimal.digitLimit then refuse .intParsingSize
    else .ok (if negative then -(digitsValue ds : Int) else digitsValue ds)

/-- An unsigned number in ASCII: digits with at most one point among them, and an exponent. -/
def unsignedOfText? (cs : List Char) : Option Float :=
  if cs.all fun c => isDigit c || c == '.' || c == 'e' || c == 'E' || c == '+' || c == '-' then
    Decimal.unsigned? cs
  else none

/-- The number that a text without margins writes. -/
def plainFloatOfText? (cs : List Char) : Option Float :=
  let (negative, cs) := Decimal.splitSign cs
  ((Decimal.named? cs) <|> unsignedOfText? cs).map fun x => if negative then -x else x

/-- The number that a text writes: with margins around it, or with single underscores inside it. -/
def floatOfText? (s : String) : Option Float :=
  let cs := s.toList
  let apart := cs.head? != some '_' && cs.getLast? != some '_' && (s.splitOn "__").length == 1
  match plainFloatOfText? (trimmed cs) with
  | some x => some x
  | none => if apart then plainFloatOfText? (cs.filter (· != '_')) else none

def intOfFloat (x : Float) : Checked Int :=
  if x.isNaN || x.isInf then refuse .finiteNumber
  else if x.floor != x then refuse .intFromFloat
  else
    match Decimal.Binary.ofFloat? x with
    | none => refuse .finiteNumber
    | some b =>
      let (num, den) := b.magnitude
      let n := num / den
      if n ≥ Nat.pow 2 63 then refuse .intParsingSize
      else .ok (if b.negative then -(n : Int) else n)

def int : Json → Checked Int
  | .int n => .ok n
  | .bool b => .ok (if b then 1 else 0)
  | .float x => intOfFloat x
  | .string s => intOfText s
  | _ => refuse .intType

def float : Json → Checked Float
  | .float x => .ok x
  | .int n =>
    match Decimal.ofInt? n with
    | some x => .ok x
    | none => refuse .floatType
  | .bool b => .ok (if b then 1.0 else 0.0)
  | .string s =>
    match floatOfText? s with
    | some x => .ok x
    | none => refuse .floatParsing
  | _ => refuse .floatType

def boolOfText? (s : String) : Option Bool :=
  let w := lower s
  if ["true", "t", "yes", "y", "on", "1"].contains w then some true
  else if ["false", "f", "no", "n", "off", "0"].contains w then some false
  else none

def bool : Json → Checked Bool
  | .bool b => .ok b
  | .int 0 => .ok false
  | .int 1 => .ok true
  | .int _ => refuse .boolParsing
  | .float x => if x == 0.0 then .ok false else if x == 1.0 then .ok true else refuse .boolType
  | .string s =>
    match boolOfText? s with
    | some b => .ok b
    | none => refuse .boolParsing
  | _ => refuse .boolType

def optional (check : Json → Checked α) : Json → Checked (Option α)
  | .null => .ok none
  | j => (check j).map some

def items (check : Json → Checked α) : Nat → List Json → Checked (List α)
  | _, [] => .ok []
  | n, j :: r => also ((under (.index n) (check j)).map List.cons) (items check (n + 1) r)

def list (check : Json → Checked α) : Json → Checked (List α)
  | .array js => items check 0 js
  | _ => refuse .listType

def entries (check : Json → Checked α) : List (String × Json) → Checked (List (String × α))
  | [] => .ok []
  | (k, j) :: r =>
    also ((under (.key k) (check j)).map fun a rest => (k, a) :: rest) (entries check r)

def dict (check : Json → Checked α) : Json → Checked (List (String × α))
  | .object fs => entries check fs
  | _ => refuse .dictType

/-- The two spellings of the name of a field. The first one counts when both are there. Problems
name the one that is there, and the first one when there is neither. -/
structure Key where
  camel : String
  snake : String
  deriving Repr, DecidableEq

def Key.plain (name : String) : Key := ⟨name, name⟩

/-- The value of a field, with the name under which it stands. -/
def Key.find? (k : Key) (fields : List (String × Json)) : Option (String × Json) :=
  match fields.lookup k.camel with
  | some j => some (k.camel, j)
  | none => (fields.lookup k.snake).map fun j => (k.snake, j)

def required (k : Key) (check : Json → Checked α) (fields : List (String × Json)) : Checked α :=
  match k.find? fields with
  | some (name, j) => under (.key name) (check j)
  | none => under (.key k.camel) (refuse .missing)

/-- A field with a value for the case that it is not there. -/
def withDefault (k : Key) (check : Json → Checked α) (value : α) (fields : List (String × Json)) :
    Checked α :=
  match k.find? fields with
  | some (name, j) => under (.key name) (check j)
  | none => .ok value

/-- The fields of an object; anything else has the given problem. -/
def fieldsOf (problem : ProblemKind) : Json → Checked (List (String × Json))
  | .object fs => .ok fs
  | _ => refuse problem

end QueryFlow.Form
