import QueryFlow.Sql.DatePart
import QueryFlow.Sql.Function.Parts
import QueryFlow.Sql.Function.Wording
import QueryFlow.Sql.Render.Operator
import QueryFlow.Sql.ValueKind

/-!
The text of function calls and of what the dialects write as one: choices, spans of time, lists and
parts of texts.
-/

namespace QueryFlow.Sql

namespace Render

/-- `WHEN` and `THEN` branches, then what the case is otherwise. -/
def branchTexts (hasElse : Bool) : List String → String
  | [x] => if hasElse then " ELSE " ++ x else ""
  | a :: b :: r => " WHEN " ++ a ++ " THEN " ++ b ++ branchTexts hasElse r
  | [] => ""

/-- Several arguments of which only different ones count. Where a dialect takes one argument only, a
row with a null is no row at all. -/
def distinctText (d : Dialect) (xs : List String) : String :=
  let single := match d with
    | .postgres | .duckdb | .presto | .trino | .bigquery => true
    | _ => false
  if single && xs.length > 1 then
    "DISTINCT CASE" ++ String.join (xs.map fun x => " WHEN " ++ x ++ " IS NULL THEN NULL")
      ++ " ELSE " ++ wrapped (commas xs) ++ " END"
  else "DISTINCT " ++ commas xs

/-- Texts of many rows put together, in the way of each dialect. -/
def joinedText (d : Dialect) (orders : Nat) (hasSeparator : Bool) (limit : Option String)
    (xs : List String) : String :=
  let value := xs.head?.getD ""
  let order := (xs.drop 1).take orders
  let limitTail := (limit.map (" LIMIT " ++ ·)).getD ""
  let orderTail := (if order.isEmpty then "" else " ORDER BY " ++ commas order) ++ limitTail
  let separator := if hasSeparator then (xs.drop (1 + orders)).head? else none
  let comma := some (separator.getD "','")
  let inside (name : String) (sep : Option String) :=
    callText name [value ++ (sep.map (", " ++ ·)).getD "" ++ orderTail]
  let behind (name : String) (sep : Option String) :=
    callText name
        [value ++ (sep.map (", " ++ ·)).getD "" ++ if order.isEmpty then limitTail else ""]
      ++ (if order.isEmpty then "" else " WITHIN GROUP (ORDER BY " ++ commas order ++ ")")
  match d with
  | .postgres => inside "STRING_AGG" comma
  | .duckdb => inside "LISTAGG" comma
  | .bigquery => inside "STRING_AGG" separator
  | .tsql => behind "STRING_AGG" comma
  | .databricks | .spark | .oracle | .trino => behind "LISTAGG" comma
  | .snowflake => behind "LISTAGG" separator
  | .redshift => callText "LISTAGG" ((value ++ orderTail) :: separator.toList)
  | .presto =>
    callText "ARRAY_JOIN" (callText "ARRAY_AGG" [value ++ orderTail] :: separator.toList)
  | .clickhouse =>
    match separator with
    | some s => callText "groupConcat" [s] ++ wrapped (value ++ orderTail)
    | none => callText "groupConcat" [value ++ orderTail]
  | .mysql | .starrocks =>
    "GROUP_CONCAT(" ++ value ++ orderTail ++ " SEPARATOR " ++ comma.getD "" ++ ")"
  | _ => callText "GROUP_CONCAT" ((value ++ orderTail) :: separator.toList)

def trimText (d : Dialect) (side : Option String) (characters : Option String) (x : String) :
    String :=
  match characters with
  | some c =>
    let isOneSided := side == some "LEADING" || side == some "TRAILING"
    if d == .ansi || d == .sqlite || d == .bigquery || d == .duckdb || d == .presto
        || d == .snowflake || d == .starrocks || (d == .oracle && isOneSided)
    then
      callText (match side with
        | some "LEADING" => "LTRIM"
        | some "TRAILING" => "RTRIM"
        | _ => "TRIM") [x, c]
    else
      let side := if d == .clickhouse then some (side.getD "BOTH") else side
      "TRIM(" ++ (side.map (· ++ " ")).getD "" ++ c ++ " FROM " ++ x ++ ")"
  | none =>
    callText (match side with
      | some "LEADING" => "LTRIM"
      | some "TRAILING" => "RTRIM"
      | _ => "TRIM") [x]

def oneStringInterval : Dialect → Bool
  | .postgres | .redshift | .snowflake => true
  | _ => false

/-- Dialects whose units of time are words for one of them. -/
def unitsInSingular : Dialect → Bool
  | .bigquery | .mysql | .presto | .starrocks | .trino => true
  | _ => false

def singularUnit (u : String) : String :=
  if ["MICROSECONDS", "MILLISECONDS", "SECONDS", "MINUTES", "HOURS", "DAYS", "WEEKS", "MONTHS",
      "QUARTERS", "YEARS"].contains u then (u.dropEnd 1).toString else u

/-- A span of time counted in quarters, in months; none when the count is no whole number. -/
def quarterText? (count : String) : Option String :=
  let trimmed := String.ofList (Text.stripLeft count.toList)
  (trimmed.toInt?).map fun n => "INTERVAL '" ++ toString (n * 3) ++ " MONTH'"

def intervalText? (d : Dialect) (unit : Option String) (x : Option Expr) (t : Option String) :
    Option String :=
  let unit := if unitsInSingular d then unit.map singularUnit else unit
  let unitTail := (unit.map (" " ++ ·)).getD ""
  let isSpan := (unitTail.splitOn " TO ").length > 1
  if oneStringInterval d then
    match x with
    | some e =>
      let isLiteral := match e.form with
        | .string _ | .number _ => true
        | _ => false
      if d == .postgres && unitTail.startsWith " QUARTER" && isLiteral then quarterText? e.nameText
      else if e.spanName.isEmpty then some ("INTERVAL" ++ unitTail)
      else if isSpan then some ("INTERVAL '" ++ e.spanName ++ "'" ++ unitTail)
      else some ("INTERVAL '" ++ e.spanName ++ unitTail ++ "'")
    | none => some ("INTERVAL" ++ unitTail)
  else
    let plain : Bool := match x.map Expr.form with
      | some (.string _) | some (.number _) | some .paren => true
      | some (.column _) | some (.unary .negative) => d != .duckdb
      | _ => false
    let value := match t with
      | some s => if plain then " " ++ s else " (" ++ s ++ ")"
      | none => ""
    some ("INTERVAL" ++ value ++ unitTail)

def chooseText (d : Dialect) (xs : List String) : String :=
  let asCase := "CASE WHEN " ++ xs.head?.getD "" ++ " THEN " ++ (xs.drop 1).head?.getD ""
    ++ ((xs.drop 2).head?.map (" ELSE " ++ ·)).getD "" ++ " END"
  let complete := if xs.length < 3 then xs ++ ["NULL"] else xs
  match d with
  | .databricks | .hive | .spark | .presto | .trino => callText "IF" xs
  | .bigquery => callText "IF" complete
  | .snowflake => callText "IFF" complete
  | .tsql => callText "IIF" complete
  | .sqlite => callText "IIF" xs
  | _ => asCase

def arrayText (d : Dialect) (word : String) (xs : List String) : String :=
  match d with
  | .bigquery | .duckdb | .clickhouse | .snowflake | .starrocks => "[" ++ commas xs ++ "]"
  | .postgres | .presto | .trino =>
    (if word.isEmpty then "ARRAY" else word) ++ "[" ++ commas xs ++ "]"
  | _ => callText "ARRAY" xs

/-- Names of the present moment and of the user, some of which have empty parentheses. -/
def momentText (d : Dialect) (standard : String) : String :=
  let bare : Bool := match standard with
    | "CURRENT_TIMESTAMP" =>
      match d with
      | .duckdb | .oracle | .postgres | .presto | .sqlite | .trino => true
      | _ => false
    | "CURRENT_TIME" =>
      match d with
      | .duckdb | .presto | .sqlite | .trino => true
      | _ => false
    | "CURRENT_USER" => d.likePostgres || d == .presto || d == .trino
    | "CURRENT_DATE" => d != .clickhouse
    | "SESSION_USER" => !(d.likeMysql || d == .bigquery)
    | "UTC_DATE" | "UTC_TIME" | "UTC_TIMESTAMP" => false
    | "CURRENT_DATETIME" => false
    | _ => true
  match d, standard with
  | .snowflake, "LOCALTIME" | .snowflake, "CURRENT_TIME" => "CURRENT_TIME"
  | .snowflake, "LOCALTIMESTAMP" => "CURRENT_TIMESTAMP"
  | .snowflake, "CURRENT_ROLE" => "CURRENT_ROLE()"
  | .tsql, "SYSTEM_USER" => "CURRENT_USER()"
  | .tsql, "CURRENT_TIMESTAMP" | .tsql, "CURRENT_DATE" | .redshift, "CURRENT_TIMESTAMP" =>
    "GETDATE()"
  | _, _ => if bare then standard else standard ++ "()"

def partText (d : Dialect) (part : Option Expr) (shown : String) : String :=
  match d, part.map Expr.form with
  | .tsql, some (.words s) =>
    match Text.upper s with
    | "WEEKISO" => "ISO_WEEK"
    | "DAYOFWEEK" => "WEEKDAY"
    | "TIMEZONE_MINUTE" => "TZOFFSET"
    | _ => shown
  | .bigquery, some (.words s) | .bigquery, some (.string s) | .duckdb, some (.words s)
  | .snowflake, some (.words s) => DatePart.full d s
  | .duckdb, some (.string s) | .snowflake, some (.string s) => Literal.quote d (DatePart.full d s)
  | _, _ => shown

/-- A value as one of a type. A safe cast gives a null where the value has no such form; in
clickhouse the type says so. -/
def castText (d : Dialect) (target : DataType) (safe : Bool) (x : String) : String :=
  let word := DataType.castWord d safe
  let type := target.renderCast d
  match d, target with
  | .mysql, .simple "TIMESTAMPTZ" _ | .mysql, .simple "TIMESTAMPLTZ" _ => callText "TIMESTAMP" [x]
  | .sqlite, .simple "DATE" _ => callText "DATE" [x]
  | .snowflake, .simple "GEOGRAPHY" _ => callText "TO_GEOGRAPHY" [x]
  | .snowflake, .simple "GEOMETRY" _ => callText "TO_GEOMETRY" [x]
  | .spark, .simple "JSON" _ | .databricks, .simple "JSON" _ => callText "TO_JSON" [x]
  | .clickhouse, .simple .. =>
    word ++ "(" ++ x ++ " AS " ++ (if safe then "Nullable(" ++ type ++ ")" else type) ++ ")"
  | _, _ => word ++ "(" ++ x ++ " AS " ++ type ++ ")"

/-- The distance of two dates where a dialect has no function for it but knows spans of time. -/
def ageText (unit finish start : String) : String :=
  let moment (s : String) := "CAST(" ++ s ++ " AS TIMESTAMP)"
  let seconds := "EXTRACT(epoch FROM " ++ moment finish ++ " - " ++ moment start ++ ")"
  let age := callText "AGE" [moment finish, moment start]
  let years := "EXTRACT(year FROM " ++ age ++ ")"
  let months := "EXTRACT(month FROM " ++ age ++ ")"
  let value := match unit with
    | "MICROSECOND" => seconds ++ " * 1000000"
    | "MILLISECOND" => seconds ++ " * 1000"
    | "SECOND" => seconds
    | "MINUTE" => seconds ++ " / 60"
    | "HOUR" => seconds ++ " / 3600"
    | "DAY" => seconds ++ " / 86400"
    | "WEEK" =>
      "EXTRACT(days FROM (" ++ moment finish ++ " - " ++ moment start ++ ")) / 7"
    | "MONTH" => years ++ " * 12 + " ++ months
    | "QUARTER" => years ++ " * 4 + " ++ months ++ " / 3"
    | "YEAR" => years
    | _ => age
  "CAST(" ++ value ++ " AS BIGINT)"

/-- The distance of two dates where a dialect only counts days. -/
def daysText (unit finish start : String) : String :=
  let days := "(JULIANDAY(" ++ finish ++ ") - JULIANDAY(" ++ start ++ "))"
  let factor := match unit with
    | "MONTH" => " / 30.0"
    | "YEAR" => " / 365.0"
    | "HOUR" => " * 24.0"
    | "MINUTE" => " * 1440.0"
    | "SECOND" => " * 86400.0"
    | "MILLISECOND" => " * 86400000.0"
    | "MICROSECOND" => " * 86400000000.0"
    | "NANOSECOND" => " * 8640000000000.0"
    | _ => ""
  "CAST(" ++ days ++ factor ++ " AS INTEGER)"

/-- A value as a truth value. -/
def asBoolean (x : Option Expr) (t : String) : String :=
  match x.map Expr.form with
  | some (.cast (.simple "BOOLEAN" _) _) => t
  | _ => "CAST(" ++ t ++ " AS BOOLEAN)"

/-- The operands of a node with their texts, as fillings of a pattern. -/
def fillings (xs : List Expr) (ts : List String) : List Phrase.Filling :=
  (xs.zip ts).map fun (x, t) =>
    ⟨t, match x.form with
      | .binary _ => true
      | _ => false⟩

/-- Dialects that have a function which compares a value with others in pairs. -/
def hasDecode : Dialect → Bool
  | .databricks | .oracle | .redshift | .snowflake | .spark => true
  | _ => false

/-- A value is the same as another one; the text of each, with the form of the other. -/
def sameText (value other : Phrase.Filling) (form : Form) : String :=
  let v := value.shielded
  let o := other.shielded
  match form with
  | .null => v ++ " IS NULL"
  | .string _ | .number _ => v ++ " = " ++ o
  | _ => v ++ " = " ++ o ++ " OR (" ++ v ++ " IS NULL AND " ++ o ++ " IS NULL)"

/-- The branches of a comparison of a value with others in pairs. -/
def pairTexts (value : Phrase.Filling) : List Expr → List Phrase.Filling → String
  | x :: _ :: xs, a :: b :: r =>
    " WHEN " ++ sameText value a x.form ++ " THEN " ++ b.text ++ pairTexts value xs r
  | _, [a] => " ELSE " ++ a.text
  | _, _ => ""

/-- A call of a known function, by its standard name, the name as written and its arguments. -/
def knownCallText (d : Dialect) (name written : String) (xs : List Expr) (ts : List String) :
    Option String :=
  let plain (ts : List String) := some (callText (Function.spelling d name written ts.length) ts)
  match Function.pattern? d name ts.length with
  | some pattern => some (Phrase.fill (fillings xs ts) pattern)
  | none =>
  match name, ts with
  | "IF", _ => some (chooseText d ts)
  | "DECODE", _ :: _ :: _ :: _ =>
    if hasDecode d then plain ts
    else match fillings xs ts with
      | value :: pairs => some ("CASE" ++ pairTexts value (xs.drop 1) pairs ++ " END")
      | [] => none
  | "DATEDIFF", finish :: start :: unit =>
    if d == .tsql && unit.isEmpty then none
    else if d == .postgres then some (ageText (unit.head?.getD "DAY") finish start)
    else if d == .sqlite then some (daysText (unit.head?.getD "DAY") finish start)
    else if d == .bigquery then
      some (callText "DATE_DIFF" [finish, start, unit.head?.getD "DAY"])
    else if d == .duckdb || d == .presto || d == .trino then
      some (callText "DATE_DIFF" ["'" ++ unit.head?.getD "DAY" ++ "'", start, finish])
    else if d == .clickhouse && unit.isEmpty then some (callText "DATE_DIFF" [finish, start])
    else if d == .hive then some (Function.elapsedText (unit.head?.getD "DAY") finish start)
    else if d.unitComesFirst && !unit.isEmpty then
      some (callText (if d == .clickhouse then "DATE_DIFF" else "DATEDIFF")
        (unit.take 1 ++ [start, finish]))
    else plain ts
  | "LOGICAL_AND", [t] | "LOGICAL_OR", [t] =>
    plain [if d == .duckdb then asBoolean xs.head? t else t]
  | "COUNT_IF", t :: _ =>
    if d.likePostgres || d.likeMysql || d == .sqlite || d == .tsql then
      some (callText "SUM" [chooseText d [t, "1", "0"]])
    else plain ts
  | "TO_ARRAY", [t] =>
    if d == .snowflake then plain ts
    else
      let tested := (fillings xs ts).head?.elim t Phrase.Filling.shielded
      some (chooseText d [tested ++ " IS NULL", "NULL", arrayText d "" [t]])
  | "ROUND", t :: places :: _ =>
    if d == .postgres then
      let inexact := xs.head?.map Expr.kind == some .double
      some (callText "ROUND" [if inexact then "CAST(" ++ t ++ " AS DECIMAL)" else t, places])
    else plain ts
  | _, _ => plain ts

def substringText (d : Dialect) (ts : List String) : String :=
  let short := d == .oracle || d == .presto || d == .trino
  match ts with
  | [t, start] =>
    if d.likePostgres then "SUBSTRING(" ++ t ++ " FROM " ++ start ++ ")"
    else callText (if short then "SUBSTR" else "SUBSTRING") ts
  | t :: start :: length :: _ =>
    if d.likePostgres then "SUBSTRING(" ++ t ++ " FROM " ++ start ++ " FOR " ++ length ++ ")"
    else callText (if short then "SUBSTR" else "SUBSTRING") [t, start, length]
  | _ => callText (if short then "SUBSTR" else "SUBSTRING") ts

def positionText (d : Dialect) (ts : List String) : String :=
  let text := ts.head?.getD ""
  let wanted := (ts.drop 1).head?.getD ""
  let more := ts.drop 2
  let offset (plain : String → String) : String :=
    match more with
    | start :: _ =>
      let found := plain (substringText d [text, start])
      let whole := found ++ " + " ++ start ++ " - 1"
      if d == .presto || d == .trino || d == .databricks || d == .spark || d == .hive then
        callText "IF" [found ++ " = 0", "0", whole]
      else "CASE WHEN " ++ found ++ " = 0 THEN 0 ELSE " ++ whole ++ " END"
    | [] => plain text
  match d with
  | .postgres | .redshift => offset fun t => "POSITION(" ++ wanted ++ " IN " ++ t ++ ")"
  | .mysql | .starrocks | .databricks | .hive | .spark =>
    callText "LOCATE" ([wanted, text] ++ more.take 1)
  | .ansi => callText "STR_POSITION" ts
  | .oracle | .bigquery => callText "INSTR" ts
  | .sqlite => offset fun t => callText "INSTR" [t, wanted]
  | .tsql | .snowflake => callText "CHARINDEX" ([wanted, text] ++ more.take 1)
  | .clickhouse => callText "POSITION" ([text, wanted] ++ more.take 1)
  | _ => offset fun t => callText "STRPOS" [t, wanted]

end Render

end QueryFlow.Sql
