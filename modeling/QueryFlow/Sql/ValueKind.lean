import QueryFlow.Sql.Expr

/-!
What kind of number a tree stands for, as far as its form tells. A number with a binary fraction has
to be told from an exact one, because rounding to some places is defined for exact numbers only.
-/

namespace QueryFlow.Sql

inductive ValueKind where
  /-- The form does not tell. -/
  | unknown
  | null
  | whole
  | decimal
  /-- A binary fraction of single precision. -/
  | single
  /-- A binary fraction of double precision. -/
  | double
  /-- A text, a date, a truth value or the like. -/
  | other
  deriving Repr, DecidableEq

namespace ValueKind

/-- Wider kinds of numbers have a higher rank; what is no number has none. -/
def rank? : ValueKind → Option Nat
  | whole => some 0
  | decimal => some 1
  | single => some 2
  | double => some 3
  | unknown | null | other => none

/-- The kind of a value that may be one of two kinds: the wider one of two numbers. Nothing is known
when one of them is not known. -/
def coerce : ValueKind → ValueKind → ValueKind
  | unknown, _ | _, unknown => unknown
  | null, k | k, null => k
  | a, b =>
    match a.rank?, b.rank? with
    | some m, some n => if m < n then b else a
    | _, _ => a

def coerceAll : List ValueKind → ValueKind
  | [] => unknown
  | k :: ks => ks.foldl coerce k

def summed : ValueKind → ValueKind
  | single => double
  | k => k

/-- The kind of a quotient. A quotient of whole numbers is one. -/
def quotient (a b : ValueKind) : ValueKind :=
  match coerce a b with
  | null | other => other
  | k => k

/-- Functions whose value always has a binary fraction. -/
def doubleFunctions : List String :=
  ["ACOS", "ACOSH", "APPROX_QUANTILE", "ASIN", "ASINH", "ATAN", "ATANH", "AVG", "CBRT",
   "CORR", "COS", "COSH", "CUME_DIST", "COT", "COTH", "COVAR_POP", "COVAR_SAMP", "DEGREES", "EXP",
   "KURTOSIS", "LN", "LOG", "PERCENT_RANK", "PERCENTILE_CONT", "PI", "QUANTILE", "RADIANS", "RAND",
   "ROUND", "SAFE_DIVIDE", "SIGN", "SIN", "SINH", "SKEWNESS", "SQRT", "STDDEV", "STDDEV_POP",
   "STDDEV_SAMP", "TAN", "TANH", "TO_DOUBLE", "VARIANCE", "VARIANCE_POP"]

/-- Functions whose value is of the kind of their arguments. -/
def sameKindFunctions : List String :=
  ["ABS", "ANY_VALUE", "BITWISE_AND_AGG", "BITWISE_OR_AGG", "BITWISE_XOR_AGG", "COALESCE",
   "FIRST_VALUE", "GREATEST", "LAST_VALUE", "LEAST", "MAX", "MIN", "NULLIF"]

/-- Functions whose value is a whole number. -/
def wholeFunctions : List String :=
  ["APPROX_DISTINCT", "ASCII", "CEIL", "COUNT", "COUNT_IF", "DATEDIFF", "DENSE_RANK", "FLOOR",
   "LENGTH", "NTILE", "RANK", "ROW_NUMBER"]

def textFunctions : List String := ["CONCAT", "CONCAT_WS", "INITCAP", "LOWER", "UPPER"]

def ofType : DataType → ValueKind
  | .simple t _ =>
    if t == "DOUBLE" then double
    else if t == "FLOAT" then single
    else if ["BIGDECIMAL", "DECIMAL", "MONEY"].contains t then decimal
    else if ["BIGINT", "INT", "INT128", "MEDIUMINT", "SMALLINT", "TINYINT", "UBIGINT", "UINT",
        "USMALLINT", "UTINYINT"].contains t then whole
    else if t == "UNKNOWN" then unknown
    else other
  | .array .. | .nested .. | .interval .. | .characterSet _ => other
  | .named .. => unknown
  | .required t => ofType t

/-- The values among the operands of a choice by cases without its subject. -/
def branchValues {α : Type} : List α → List α
  | _ :: b :: r => b :: branchValues r
  | [x] => [x]
  | [] => []

def ofOperation (op : BinaryOp) (a b : ValueKind) : ValueKind :=
  match op with
  | .add | .subtract | .multiply | .remainder | .wholeDivide | .bitAnd | .bitOr | .bitXor
  | .shiftLeft | .shiftRight => coerce a b
  | .divide => quotient a b
  | .power => double
  | .jsonField | .jsonText | .jsonPath | .jsonPathText | .collate | .distance | .boxDistance
  | .atTimeZone => unknown
  | _ => other

def ofCall (name : String) (kinds : List ValueKind) : ValueKind :=
  if doubleFunctions.contains name then double
  else if sameKindFunctions.contains name then coerceAll kinds
  else if wholeFunctions.contains name then whole
  else if textFunctions.contains name then other
  else if name == "SUM" then (coerceAll kinds).summed
  else if name == "IF" then coerceAll (kinds.drop 1)
  else unknown

end ValueKind

namespace Expr

mutual

def kind : Expr → ValueKind
  | node f _ xs =>
    let kinds := kindsOf xs
    let first := kinds.head?.getD .unknown
    match f with
    | .number s => if s.any fun c => c == '.' || c == 'e' || c == 'E' then .double else .whole
    | .null => .null
    | .string _ | .boolean _ | .interval _ | .joinedText .. | .substring | .trim .. | .present
    | .between _ | .inList | .inQuery | .inField | .exists | .unary .not => .other
    | .extract | .position => .whole
    | .cast t _ => .ofType t
    | .unary .squareRoot | .unary .cubeRoot => .double
    | .binary op => .ofOperation op first ((kinds.drop 1).head?.getD .unknown)
    | .case hasSubject _ =>
      .coerceAll (ValueKind.branchValues (kinds.drop (if hasSubject then 1 else 0)))
    | .paren | .unary _ | .alias _ | .filtered | .window _ | .withinGroup | .nullsRule _
    | .orderedArgument | .limitedArgument => first
    | .distinctArguments => .coerceAll kinds
    | .subquery _ => first
    | .select _ => first
    | .items => if xs.length == 1 then first else .unknown
    | .call name _ true => .ofCall name kinds
    | _ => .unknown

def kindsOf : List Expr → List ValueKind
  | [] => []
  | x :: xs => kind x :: kindsOf xs

end

end Expr

end QueryFlow.Sql
