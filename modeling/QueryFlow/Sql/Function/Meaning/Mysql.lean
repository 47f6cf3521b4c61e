import QueryFlow.Sql.Function.Parts

/-!
Functions as mysql and starrocks read them.
-/

namespace QueryFlow.Sql

namespace Function

/-- The start of the unit that a moment lies in, by its number in the year. -/
def startOfUnit? (unit : String) : Option String :=
  match unit with
  | "WEEK" => some "STR_TO_DATE(CONCAT(YEAR($1), ' ', WEEK($1, 1), ' 1'), '%%Y %%u %%w')"
  | "MONTH" => some "STR_TO_DATE(CONCAT(YEAR($1), ' ', MONTH($1), ' 1'), '%%Y %%c %%e')"
  | "QUARTER" =>
    some "STR_TO_DATE(CONCAT(YEAR($1), ' ', QUARTER($1) * 3 - 2, ' 1'), '%%Y %%c %%e')"
  | "YEAR" => some "STR_TO_DATE(CONCAT(YEAR($1), ' 1 1'), '%%Y %%c %%e')"
  | _ => none

/-- Functions that mysql and starrocks do not read alike. -/
def ownMysqlMeaning? (d : Dialect) (u : String) (args : List Expr) : Option Expr :=
  match d, u, args with
  | .mysql, "DATE_TRUNC", [p, a] =>
    let pattern := (startOfUnit? (unitText p.nameText)).getD "DATE($1)"
    some (phrase pattern [a])
  | .starrocks, "DATEDIFF", a :: b :: _ => some (phrase "DATE_DIFF('DAY', $1, $2)" [a, b])
  | .starrocks, "DATE_DIFF", [p, a, b] => some (phrase "DATE_DIFF($3, $1, $2)" [a, b, unitString p])
  | .starrocks, "DATE_TRUNC", [p, a] => some (phrase "DATE_TRUNC($2, $1)" [a, unitString p])
  | .starrocks, "TIMESTAMP_TRUNC", a :: p :: _ =>
    some (phrase "DATE_TRUNC($2, $1)" [a, unitString p])
  | _, _, _ => none

def mysqlMeaning? (d : Dialect) (u : String) (args : List Expr) : Option Expr :=
  ownMysqlMeaning? d u args <|> match u, args with
  | "NOW", [] => some (.of (.moment "CURRENT_TIMESTAMP"))
  | "NOW", a :: _ => some (phrase "CURRENT_TIMESTAMP($1)" [a])
  | "CURRENT_DATE", [a] | "CURDATE", [a] => some (phrase "CURRENT_DATE AT TIME ZONE $1" [a])
  | "DATE", a :: _ => some (phrase "DATE($1)" [a])
  | "CURDATE", [] => some (.of (.moment "CURRENT_DATE"))
  | "CURTIME", _ => some (callOf "CURRENT_TIME" args)
  | "ISNULL", [a] => some (.of .paren [.of (.binary .is) [a, .of .null]])
  | "LENGTH", [a] => some (phrase "LENGTH($1)" [a])
  | "TIMESTAMPDIFF", [p, a, b] => some (phrase "TIMESTAMPDIFF($3, $2, $1)" [b, a, unitArgument p])
  | "DATABASE", [] | "SCHEMA", [] => some (phrase "SCHEMA()" [])
  | "DATE_FORMAT", _ :: _ :: _ | "STR_TO_DATE", _ :: _ :: _ | "FROM_UNIXTIME", _ :: _ :: _ =>
    some (formatSecond d u args)
  | "MONTHNAME", [a] => some (phrase "DATE_FORMAT($1, '%%M')" [a])
  | "CONVERT_TZ", [a, b, c] => some (phrase "CONVERT_TZ($3, $1, $2)" [b, c, a])
  | "MAKETIME", [a, b, c] => some (callOf "TIME_FROM_PARTS" [a, b, c])
  | _, _ => none

end Function

end QueryFlow.Sql
