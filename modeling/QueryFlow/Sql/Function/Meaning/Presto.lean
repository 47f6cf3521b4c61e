import QueryFlow.Sql.Function.Meaning.Dates

/-!
Functions as presto and trino read them.
-/

namespace QueryFlow.Sql

namespace Function

/-- A format for moments in the words of data warehouses, in which capitals and small letters are
the same. -/
def clockFormat (d : Dialect) (e : Expr) : Expr :=
  match e with
  | .node (.string s) n xs => .node (.string (TimeFormat.ofWarehouse d (Text.upper s))) n xs
  | e => e

def prestoMeaning? (d : Dialect) (u : String) (args : List Expr) : Option Expr :=
  match u, args with
  | "DATE_ADD", [p, n, a] =>
    some (phrase "DATE_ADD($3, $2, $1)" [a, wholeCount n, unitString p])
  | "SORT_ARRAY", [a, rule] =>
    match rule.form with
    | .boolean false =>
      some (phrase
        "ARRAY_SORT($1, (a, b) -> CASE WHEN a < b THEN 1 WHEN a > b THEN -1 ELSE 0 END)" [a, rule])
    | _ => none
  | "TIMESTAMP", [a] => some (castOf "TIMESTAMP" a)
  | "TIMESTAMP", [a, z] => some (zonedMoment d a z)
  | "TIMESTAMP_ADD", a :: n :: r =>
    some (movedByUnit "DATE_ADD" ("'" ++ unitOrDay r ++ "'") a (wholeCount n))
  | "STR_TO_UNIX", [a, f] => some (secondsOfText a f)
  | "SEQUENCE", a :: b :: r | "GENERATE_SERIES", a :: b :: r => some (sequenceOf a b r)
  | "GENERATE_DATE_ARRAY", a :: b :: r => some (dailySequence a b r)
  | "TO_CHAR", a :: f :: _ => some (phrase "DATE_FORMAT($1, $2)" [a, clockFormat d f])
  | "STRPOS", [a, b, c] => some (phrase "STRPOS($1, $2, $3)" [a, b, c])
  | "ENCODE", [a, _] => some (phrase "TO_UTF8($1)" [a])
  | "TRIM", [a] => some (.of (.trim none false) [a])
  | "TRIM", [a, b] => some (.of (.trim none true) [a, b])
  | "NOW", [] => some (.of (.moment "CURRENT_TIMESTAMP"))
  | "BITWISE_AND", [a, b] => some (.of (.binary .bitAnd) [a, b])
  | "BITWISE_OR", [a, b] => some (.of (.binary .bitOr) [a, b])
  | "BITWISE_XOR", [a, b] => some (.of (.binary .bitXor) [a, b])
  | "BITWISE_NOT", [a] => some (.of (.unary .complement) [a])
  | "DATE_FORMAT", [_, _] | "DATE_PARSE", [_, _] => some (formatSecond d u args)
  | "SHA256", [a] | "SHA512", [a] => some (phrase (u ++ "($1)") [a])
  | _, _ => none

end Function

end QueryFlow.Sql
