import QueryFlow.Sql.Function.Meaning.Common

/-!
Functions as postgres and redshift read them.
-/

namespace QueryFlow.Sql

namespace Function

/-- A span of so many units in postgres, which is added to or taken from a date. -/
def shiftedDate (sign : String) (date amount : Expr) (unit : Option Expr) : Expr :=
  let word := unit.bind unit?
  let tail := (word.map (" " ++ ·)).getD ""
  let whole (text : String) : Expr :=
    phrase ("$1 " ++ sign ++ " INTERVAL '" ++ Phrase.literal text ++ " " ++ word.getD "DAY" ++ "'")
      [date]
  match amount with
  | .node (.number s) _ _ | .node (.string s) _ _ => whole s
  | .node (.unary .negative) _ [.node (.number s) _ _] => whole ("-" ++ s)
  | .node (.interval _) _ _ => phrase ("$1 " ++ sign ++ " $2") [date, amount]
  | _ => phrase ("$1 " ++ sign ++ " (INTERVAL '1" ++ tail ++ "' * $2)") [date, amount]

def spanText (s : String) : String :=
  match s.splitOn " " with
  | [n, unit] => if isWholeNumber n && !unit.isEmpty then n ++ " " ++ unitText unit else s
  | _ => s

/-- Functions that postgres reads in its own way and redshift does not. -/
def plainPostgresMeaning? (u : String) (args : List Expr) : Option Expr :=
  match u, args with
  | "UUID", [a] => some (castOf "UUID" a)
  | "DATE_ADD", a :: b :: r => some (shiftedDate "+" a b r.head?)
  | "DATE_FROM_UNIX_DATE", [n] =>
    some (shiftedDate "+" (castOf "DATE" (stringOf "1970-01-01")) n (some (.of (.words "DAY"))))
  | "TS_OR_DS_ADD", a :: b :: r =>
    some (shiftedDate "+" (castOf "DATE" (castOf "TIMESTAMP" a)) b r.head?)
  | "TS_OR_DS_DIFF", a :: b :: r => some (callOf "DATEDIFF" (a :: b :: (r.take 1).map unitArgument))
  | "ARRAY_CAT", _ | "ARRAY_CONCAT", _ => some (joinedLists args)
  | _, _ => none

/-- Functions that redshift reads in its own way and postgres does not. -/
def redshiftMeaning? (u : String) (args : List Expr) : Option Expr :=
  match u, args with
  | "DATEADD", [p, n, a] | "DATE_ADD", [p, n, a] =>
    some (phrase "DATEADD($3, $2, $1)" [a, n, partArgument .redshift p])
  | "DATEDIFF", [p, a, b] | "DATE_DIFF", [p, a, b] =>
    some (callOf "DATEDIFF" [b, a, partArgument .redshift p])
  | "ADD_MONTHS", [a, n] => some (phrase "DATEADD(MONTH, $2, $1)" [a, n])
  | "GETDATE", [] => some (.of (.moment "CURRENT_TIMESTAMP"))
  | "CONCAT", _ => chained args
  | "CONCAT_WS", sep :: r => chained (separated sep r)
  | "UNNEST", _ | "EXPLODE", _ => some (phrase "" args)
  | "SPLIT_TO_ARRAY", [a] => some (phrase "SPLIT_TO_ARRAY($1, ',')" [a])
  | _, _ => none

def postgresMeaning? (d : Dialect) (u : String) (args : List Expr) : Option Expr :=
  let own := if d == .redshift then redshiftMeaning? u args else plainPostgresMeaning? u args
  own <|> match u, args with
  | "DATE_SUB", a :: b :: r => some (shiftedDate "-" a b r.head?)
  | "NOW", _ => some (.of (.moment "CURRENT_TIMESTAMP") args)
  | "CURRENT_TIMESTAMP", _ => some (.of (.moment u) args)
  | "CURRENT_DATE", [_] => some (phrase "CURRENT_DATE AT TIME ZONE $1" args)
  | "YEAR", [a] | "MONTH", [a] | "DAY", [a] | "QUARTER", [a] | "WEEK", [a] =>
    some (.of .extract [.of (.words u), a])
  | "DATE_TRUNC", p :: a :: _ => some (phrase "DATE_TRUNC($2, $1)" [a, unitString p])
  | "TIMESTAMP_TRUNC", [a, p] => some (phrase "DATE_TRUNC($2, $1)" [a, unitString p])
  | "TIMESTAMP_TRUNC", a :: p :: z :: _ =>
    some (phrase "DATE_TRUNC($2, $1, $3)" [a, unitString p, z])
  | "TO_CHAR", a :: f :: _ => some (callOf "TO_CHAR" [a, formatArgument d f])
  | "TO_DATE", a :: f :: _ => some (callOf "TO_DATE" [a, formatArgument d f])
  | "TO_TIMESTAMP", [a] => some (callOf "UNIX_TO_TIME" [a])
  | "TO_TIMESTAMP", a :: f :: _ => some (callOf "TO_TIMESTAMP" [a, formatArgument d f])
  | "DIV", [a, b] => some (phrase "CAST(DIV($1, $2) AS DECIMAL)" [a, b])
  | "ARRAY_PREPEND", [a, b] => some (phrase "ARRAY_PREPEND($2, $1)" [b, a])
  | "FILTER", [a, c] | "ARRAY_FILTER", [a, c] => some (filteredList d a c)
  | "JSON_EXTRACT_PATH", a :: b :: r =>
    some (callOf "JSON_EXTRACT" (a :: (literalKeys? (b :: r)).getD (b :: r)))
  | "JSON_EXTRACT_PATH_TEXT", a :: b :: r =>
    some (callOf "JSON_EXTRACT_SCALAR" (a :: (literalKeys? (b :: r)).getD (b :: r)))
  | "GENERATE_SERIES", [a, b, .node (.string s) ns _] =>
    some (callOf "GENERATE_SERIES" [a, b, phrase ("INTERVAL '" ++ Phrase.literal (spanText s)
      ++ "'")
      [.node (.string s) ns []]])
  | _, _ => none

end Function

end QueryFlow.Sql
