import QueryFlow.Sql.Function.Meaning.Bigquery
import QueryFlow.Sql.Function.Meaning.Clickhouse
import QueryFlow.Sql.Function.Meaning.Common
import QueryFlow.Sql.Function.Meaning.Dates
import QueryFlow.Sql.Function.Meaning.Duckdb
import QueryFlow.Sql.Function.Meaning.Hive
import QueryFlow.Sql.Function.Meaning.Mysql
import QueryFlow.Sql.Function.Meaning.Postgres
import QueryFlow.Sql.Function.Meaning.Presto
import QueryFlow.Sql.Function.Meaning.Snowflake
import QueryFlow.Sql.Function.Meaning.Tsql

/-!
Functions that are another way to write something else: an operator, a cast, a choice by cases, or
the same function with its arguments in another form. The operands of the answer stand in the order
in which they are looked at, which may differ from the order of the arguments.
-/

namespace QueryFlow.Sql

namespace Function

def distance? (d : Dialect) (u : String) (args : List Expr) : Option Expr :=
  let plain := match d, u with
    | .snowflake, "DATE_DIFF" | .tsql, "DATE_DIFF" | .presto, "DATEDIFF" | .trino, "DATEDIFF" =>
      true
    | _, _ => false
  match u, args with
  | "DATEDIFF", [a, b] | "DATE_DIFF", [a, b] =>
    if plain || d == .databricks then some (callOf "DATEDIFF" [a, b, .of (.words "DAY")]) else none
  | "DATEDIFF", [a, b, c] | "DATE_DIFF", [a, b, c] =>
    let (finish, start, unit) := if d.unitComesFirst && !plain then (c, b, a) else (a, b, c)
    let value (e : Expr) : Expr := if d == .duckdb then readMoment "DATE" e else e
    some (callOf "DATEDIFF" [value finish, value start, unitArgument unit])
  | _, _ => none

/-- Functions that sqlite or oracle read in their own way. -/
def otherMeaning? (d : Dialect) (u : String) (args : List Expr) : Option Expr :=
  match d, u, args with
  | .sqlite, "CONCAT", _ => chained args
  | .oracle, "TO_CHAR", _ :: _ :: _ | .oracle, "TO_DATE", _ :: _ :: _
  | .oracle, "TO_TIMESTAMP", _ :: _ :: _ => some (formatSecond d u args)
  | .oracle, "SQUARE", [a] => some (.of (.binary .power) [a, numberOf "2"])
  | _, _, _ => none

/-- What a dialect takes a function for, by the name as written in capitals. -/
def meaning? (d : Dialect) (u : String) (args : List Expr) : Option Expr :=
  let own := match d with
    | .postgres | .redshift => postgresMeaning? d u args
    | .mysql | .starrocks => mysqlMeaning? d u args
    | .snowflake => snowflakeMeaning? u args
    | .tsql => tsqlMeaning? u args
    | .hive | .spark | .databricks => hiveMeaning? d u args
    | .presto | .trino => prestoMeaning? d u args
    | .bigquery => bigqueryMeaning? u args
    | .clickhouse => clickhouseMeaning? u args
    | .duckdb => duckdbMeaning? u args
    | .ansi | .oracle | .sqlite => otherMeaning? d u args
  if isForeign d u then none
  else own <|> distance? d u args <|> momentMeaning? d u args <|> commonMeaning? d u args
    <|> lastMeaning?
where
  /-- The rules for names that no dialect reads in its own way. -/
  lastMeaning? : Option Expr :=
    if isMomentCall d u && args.isEmpty then some (.of (.moment u))
    else if u == "DATE_TRUNC" && d != .bigquery then
      match args with
      | p :: r => some (callOf "DATE_TRUNC" (freeUnitString p :: r))
      | [] => none
    else match if u == "DATE_TRUNC" then some 1 else unitPlace? u with
      | some n =>
        if n < args.length then
          some (callOf ((Function.find? d u).elim u (·.name)) (args.modify n unitArgument))
        else none
      | none => none

/-- The number of arguments that a dialect asks for where it reads a function in its own way. -/
def ownArity? (d : Dialect) (u : String) : Option (Nat × Nat) :=
  match d, u with
  | .postgres, "NOW" | .redshift, "NOW" => some (0, 2)
  | .postgres, "TO_CHAR" | .redshift, "TO_CHAR" => some (2, 4)
  | .postgres, "TO_DATE" | .redshift, "TO_DATE" => some (1, 3)
  | .postgres, "TO_TIMESTAMP" | .redshift, "TO_TIMESTAMP" => some (1, 5)
  | .redshift, "DATEDIFF" | .redshift, "DATE_DIFF" | .redshift, "DATEADD"
  | .redshift, "DATE_ADD" => some (3, 3)
  | .snowflake, "DATEDIFF" | .snowflake, "DATEADD" | .snowflake, "TIMEADD" | .snowflake, "TIMEDIFF"
  | .snowflake, "TIMESTAMPADD" | .snowflake, "TIMESTAMPDIFF" => some (3, 3)
  | .presto, "DATE_ADD" | .presto, "DATE_DIFF" | .trino, "DATE_ADD" | .trino, "DATE_DIFF"
  | .duckdb, "DATEDIFF" | .duckdb, "DATE_DIFF" => some (3, 6)
  | .starrocks, "DATE_DIFF" => some (3, 6)
  | .mysql, "DATE" | .starrocks, "DATE" => some (1, 3)
  | .mysql, "CURDATE" | .starrocks, "CURDATE" | .mysql, "CURTIME" | .starrocks, "CURTIME" =>
    some (0, 1)
  | .presto, "TO_CHAR" | .trino, "TO_CHAR" => some (2, 4)
  | .clickhouse, "SPLITBYSTRING" | .clickhouse, "SPLITBYREGEXP" => some (2, 5)
  | .bigquery, "SPLIT" => some (1, 5)
  | .duckdb, "ENCODE" => some (1, 2)
  | .duckdb, "GENERATE_SERIES" => some (1, 4)
  | .tsql, "JSON_VALUE" => some (2, 9)
  | .tsql, "JSON_QUERY" => some (1, 9)
  | .bigquery, "JSON_QUERY" => some (2, 9)
  | .bigquery, "ARRAY" => some (0, 1)
  | .bigquery, "TRIM" => some (1, 4)
  | .bigquery, "TIME" => some (1, 7)
  | .bigquery, "DATETIME" => some (1, 11)
  | .bigquery, "JSON_EXTRACT_SCALAR" | .bigquery, "JSON_VALUE" => some (1, 9)
  | .hive, "TRUNC" | .spark, "TRUNC" | .databricks, "TRUNC" => some (2, 2)
  | _, _ => none

/-- The arguments are a value and the wish to pass over nulls. -/
def passesNulls (d : Dialect) (u : String) (args : List Expr) : Bool :=
  let names := if d == .hive then ["FIRST_VALUE", "LAST_VALUE"]
    else ["ANY_VALUE", "FIRST_VALUE", "LAST_VALUE"]
  d.likeHive && names.contains u && match args with
    | [_, rule] =>
      match rule.form with
      | .boolean b => b
      | _ => false
    | _ => false

def suits (d : Dialect) (u : String) (args : List Expr) : Bool :=
  let count := args.length
  match ownArity? d u with
  | some (low, high) => low ≤ count && count ≤ high
  | none =>
    if u == "MAP" && (d.likeHive || d == .clickhouse) then count % 2 == 0 || count == 1
    else passesNulls d u args || ((find? d u).map (·.accepts count)).getD true

/-- Dialects where a date is moved by a span of time only, in these functions. -/
def needsInterval (d : Dialect) (u : String) (args : List Expr) : Bool :=
  let isMove := match d, u with
    | .mysql, "DATE_ADD" | .mysql, "DATE_SUB" | .starrocks, "DATE_ADD" | .starrocks, "DATE_SUB"
    | .bigquery, "DATE_ADD" | .bigquery, "DATE_SUB" | .bigquery, "DATETIME_ADD"
    | .bigquery, "DATETIME_SUB" | .bigquery, "TIMESTAMP_ADD" | .bigquery, "TIMESTAMP_SUB"
    | .bigquery, "TIME_ADD" | .bigquery, "TIME_SUB" => true
    | _, _ => false
  isMove && match args with
    | _ :: .node (.interval _) _ _ :: _ => false
    | _ => true

end Function

end QueryFlow.Sql
