import QueryFlow.Sql.Function.Meaning.Common

/-!
Functions as bigquery reads them.
-/

namespace QueryFlow.Sql

namespace Function

/-- Functions that take parts of documents by a path. The whole document is meant where some of them
have no path. -/
def bigqueryPart? (u : String) (args : List Expr) : Option Expr :=
  let standard? : Option (String × String) := match u with
    | "JSON_EXTRACT" | "JSON_QUERY" => some ("JSON_EXTRACT", u)
    | "JSON_EXTRACT_SCALAR" | "JSON_EXTRACT_PATH_TEXT" | "JSON_VALUE" =>
      some ("JSON_EXTRACT_SCALAR", u)
    | "JSON_EXTRACT_ARRAY" | "JSON_QUERY_ARRAY" => some ("JSON_EXTRACT_ARRAY", u)
    | "JSON_EXTRACT_STRING_ARRAY" | "JSON_VALUE_ARRAY" =>
      some ("JSON_VALUE_ARRAY", "JSON_VALUE_ARRAY")
    | _ => none
  match standard?, args with
  | some (name, shown), [a] => some (.of (.call name shown true) [a, stringOf "$"])
  | some (name, shown), a :: path :: _ =>
    some (.of (.call name shown true) [a, pathArgument .bigquery path])
  | _, _ => none

def bigqueryMeaning? (u : String) (args : List Expr) : Option Expr :=
  let format (f : Expr) : Expr := formatArgument .bigquery f
  bigqueryPart? u args <|> match u, args with
  | "TO_JSON_STRING", a :: _ | "JSON_FORMAT", a :: _ => some (phrase "TO_JSON_STRING($1)" [a])
  | "FORMAT_DATE", f :: r | "FORMAT_DATETIME", f :: r | "FORMAT_TIMESTAMP", f :: r
  | "FORMAT_TIME", f :: r | "PARSE_DATE", f :: r | "PARSE_DATETIME", f :: r
  | "PARSE_TIMESTAMP", f :: r | "PARSE_TIME", f :: r => some (phrase (u ++ "(@1)") (format f :: r))
  | "SHA256", [a] | "SHA512", [a] | "MD5", [a] => some (phrase (u ++ "($1)") [a])
  | "TIMESTAMP_SECONDS", [a] | "TIMESTAMP_MILLIS", [a] | "TIMESTAMP_MICROS", [a] =>
    some (phrase (u ++ "($1)") [a])
  | "DIV", [a, b] => some (phrase "DIV($1, $2)" [a, b])
  | "TRIM", [a] => some (.of (.trim none false) [a])
  | "TRIM", [a, b] => some (.of (.trim none true) [a, b])
  | "TIME", [_] | "TIME", _ :: _ :: _ :: _ => some (phrase "TIME(@1)" args)
  | "DATETIME", [_] | "DATETIME", _ :: _ :: _ :: _ => some (phrase "DATETIME(@1)" args)
  | "DATE", [_, _, _] => some (phrase "DATE(@1)" args)
  | "FILTER", [a, c] | "ARRAY_FILTER", [a, c] => some (filteredList .bigquery a c)
  | "TO_HEX", [.node (.phrase "MD5($1)") _ [a]] => some (phrase "TO_HEX(MD5($1))" [a])
  | _, _ => none

end Function

end QueryFlow.Sql
