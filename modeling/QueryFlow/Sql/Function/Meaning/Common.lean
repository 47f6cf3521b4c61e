import QueryFlow.Sql.Function.Parts

/-!
Functions that all dialects read in the same way as something else.
-/

namespace QueryFlow.Sql

namespace Function

/-- Lists put together two by two from the right. -/
def joinedLists : List Expr → Expr
  | [] => callOf "ARRAY_CONCAT" []
  | [a] => callOf "ARRAY_CONCAT" [a, .of (.arrayLiteral "ARRAY")]
  | [a, b] => callOf "ARRAY_CONCAT" [a, b]
  | a :: r => callOf "ARRAY_CONCAT" [a, joinedLists r]

/-- The node tells whether something holds. -/
def isTest (e : Expr) : Bool :=
  match e.form with
  | .binary op =>
    [.equal, .notEqual, .less, .lessEqual, .greater, .greaterEqual, .like, .likeFolded, .is,
      .sameAs, .differsFrom, .glob, .similarTo].contains op
  | .between _ | .inList | .inQuery | .inField | .exists => true
  | _ => false

/-- The pattern for the items of the first operand for which the second one holds, by a query. -/
def filterPattern (d : Dialect) (item : Name) : String :=
  let name := Phrase.literal (item.render d)
  let source := match d with
    | .bigquery => "UNNEST($1) AS " ++ name
    | .redshift => "$1 AS " ++ name
    | _ => "UNNEST($1) AS _t0(" ++ name ++ ")"
  "ARRAY(SELECT " ++ name ++ " FROM " ++ source ++ " WHERE $2)"

/-- The items of a list for which a condition holds, where there is no function for it. What is no
condition on an item cannot be said. -/
def filteredList (d : Dialect) (list condition : Expr) : Expr :=
  match condition with
  | .node (.lambda [x]) _ [test] => phrase (filterPattern d x) [list, test]
  | _ =>
    if isTest condition then phrase (filterPattern d (.bare "_u")) [list, condition]
    else phrase "" [list, condition]

/-- A condition holds for some item of a list, or the list is empty. -/
def someItem? (d : Dialect) (list condition : Expr) : Option Expr :=
  let byQuery := filteredList d list condition
  let whole (size : String → String) (found : Expr) : Option Expr :=
    match found with
    | .node (.phrase pattern) n xs =>
      some (.node (.phrase ("(" ++ size "$1" ++ " = 0 OR " ++ size pattern ++ " <> 0)")) n xs)
    | _ => none
  let plain (name filter : String) : Option Expr :=
    whole (fun s => name ++ "(" ++ s ++ ")") (phrase filter [list, condition])
  match d with
  | .postgres | .redshift => whole (fun s => "ARRAY_LENGTH(" ++ s ++ ", 1)") byQuery
  | .bigquery => whole (fun s => "ARRAY_LENGTH(" ++ s ++ ")") byQuery
  | .clickhouse => plain "LENGTH" "arrayFilter($2, $1)"
  | .duckdb => plain "ARRAY_LENGTH" "LIST_FILTER($1, $2)"
  | .snowflake => plain "ARRAY_SIZE" "FILTER($1, $2)"
  | .databricks | .spark => plain "SIZE" "FILTER($1, $2)"
  | _ => none

def chained : List Expr → Option Expr
  | [] => none
  | e :: r => some (r.foldl (fun a b => .of (.binary .concatenate) [a, b]) e)

def separated (separator : Expr) : List Expr → List Expr
  | a :: b :: r => a :: separator :: separated separator (b :: r)
  | xs => xs

/-- A logarithm, whose base comes first, comes second or must be part of the name. -/
def logarithm? (d : Dialect) (u : String) (args : List Expr) : Option Expr :=
  let baseLast := d == .bigquery || d == .tsql
  let baseless := d == .presto || d == .clickhouse
  match u, args with
  | "LOG2", a :: _ | "LOG10", a :: _ =>
    let base := (u.drop 3).toString
    if baseless then some (phrase (u ++ "($1)") [a])
    else if baseLast then some (callOf "LOG" [a, numberOf base])
    else some (callOf "LOG" [numberOf base, a])
  | "LOG", [a] =>
    if d.likeMysql || d.likeHive || d == .bigquery || d == .clickhouse || d == .tsql then
      some (callOf "LN" [a])
    else none
  | "LOG", [a, b] =>
    if baseless && (b.nameText == "2" || b.nameText == "10") then
      some (phrase ("LOG" ++ b.nameText ++ "($1)") [a])
    else if baseless then some (callOf "LOG" [b, a])
    else if baseLast then some (phrase "LOG($2, $1)" [b, a])
    else none
  | _, _ => none

/-- A text that is filled up. What fills it is needed in some dialects. -/
def padded (d : Dialect) (args : List Expr) : List Expr :=
  let needed := d.likeMysql || d == .hive || d == .presto || d == .trino || d == .duckdb
  if needed && args.length == 2 then args ++ [stringOf " "] else args.take 3

/-- The part of a text that matches a pattern. Some dialects write the number of a group only where
it is not the one that they take anyhow. -/
def extractedPart? (d : Dialect) (u : String) (args : List Expr) : Option Expr :=
  let usual? := match d with
    | .hive | .spark | .databricks => some "1"
    | .presto | .trino | .duckdb => some "0"
    | _ => none
  match usual?, args with
  | some usual, [a, p, g] => some (callOf u (if g.nameText == usual then [a, p] else [a, p, g]))
  | _, _ => none

def textMeaning? (d : Dialect) (u : String) (args : List Expr) : Option Expr :=
  match u, args with
  | "MOD", a :: b :: _ => some (.of (.binary .remainder) [shielded a, shielded b])
  | "POWER", [a, b] | "POW", [a, b] =>
    some (if d.keepsFunctionCase then callOf "POWER" [a, b] else .of (.binary .power) [a, b])
  | "SUBSTR", _ | "SUBSTRING", _ => if d.keepsFunctionCase then none else some (.of .substring args)
  | "STRPOS", _ | "INSTR", _ | "STR_POSITION", _ => some (.of .position args)
  | "LOCATE", a :: b :: r | "CHARINDEX", a :: b :: r => some (.of .position (b :: a :: r.take 1))
  | "LTRIM", [a] => some (.of (.trim (some "LEADING") false) [a])
  | "LTRIM", a :: b :: _ => some (.of (.trim (some "LEADING") true) [a, b])
  | "RTRIM", [a] => some (.of (.trim (some "TRAILING") false) [a])
  | "RTRIM", a :: b :: _ => some (.of (.trim (some "TRAILING") true) [a, b])
  | "BTRIM", [a] => some (.of (.trim none false) [a])
  | "BTRIM", [a, b] => some (.of (.trim none true) [a, b])
  | "GLOB", a :: b :: _ => some (.of (.binary .glob) [b, a])
  | "LIKE", [a, b] => some (.of (.binary .like) [b, a])
  | "LIKE", a :: b :: c :: _ => some (.of (.binary .escape) [.of (.binary .like) [b, a], c])
  | "REGEXP_LIKE", [a, b] => some (.of (.binary .matching) [a, b])
  | "UPPER", .node (.call "HEX" w true) n xs :: _ | "UCASE", .node (.call "HEX" w true) n xs :: _ =>
    let digits := Expr.node (.call "HEX" w true) n xs
    some (if d.smallHexDigits then callOf "UPPER" [digits] else digits)
  | "LOWER", [.node (.call "HEX" w true) n xs] | "LCASE", [.node (.call "HEX" w true) n xs] =>
    if d.smallHexDigits then some (.node (.call "HEX" w true) n xs) else none
  | "UPPER", a :: _ :: _ | "UCASE", a :: _ :: _ => some (callOf "UPPER" [a])
  | "LOWER", a :: _ :: _ | "LCASE", a :: _ :: _ => some (callOf "LOWER" [a])
  | "HEX", a :: _ | "TO_HEX", a :: _ => some (callOf "HEX" [a])
  | "REGEXP_EXTRACT", _ | "REGEXP_EXTRACT_ALL", _ => extractedPart? d u args
  | "LPAD", _ | "LEFTPAD", _ => some (callOf "LPAD" (padded d args))
  | "RPAD", _ | "RIGHTPAD", _ => some (callOf "RPAD" (padded d args))
  | "INITCAP", _ => some (callOf "INITCAP" (args.take 2))
  | "NORMALIZE", [a, .node (.column [n]) ns _] =>
    some (callOf "NORMALIZE" [a, .node (.words n.text) ns []])
  | "SHA2", [a, .node (.number n) _ _] =>
    let name := "SHA" ++ Phrase.literal n
    match d with
    | .postgres => some (phrase ("ENCODE(" ++ name ++ "($1), 'hex')") [a])
    | .bigquery | .clickhouse | .duckdb | .presto | .trino => some (phrase (name ++ "($1)") [a])
    | .tsql => some (phrase ("HASHBYTES('SHA2_" ++ Phrase.literal n ++ "', $1)") [a])
    | _ => none
  | "SHA2_DIGEST", [a, .node (.number n) _ _] =>
    match d with
    | .bigquery | .clickhouse | .postgres | .presto | .trino =>
      some (phrase ("SHA" ++ Phrase.literal n ++ "($1)") [a])
    | _ => none
  | _, _ => logarithm? d u args

/-- The format is one that dates or moments have anyhow. -/
def isUsualFormat (d : Dialect) (format : Expr) : Bool :=
  let usual := match d with
    | .hive | .spark | .databricks => ["yyyy-MM-dd", "yyyy-MM-dd HH:mm:ss"]
    | .presto | .trino => ["%Y-%m-%d", "%Y-%m-%d %T"]
    | .ansi | .clickhouse | .duckdb | .sqlite => ["%Y-%m-%d", "%Y-%m-%d %H:%M:%S"]
    | _ => []
  match format.form with
  | .string s => usual.contains s
  | _ => false

def castMeaning? (d : Dialect) (u : String) (args : List Expr) : Option Expr :=
  let isPresto := d == .presto || d == .trino
  let hasTimeCasts := !(d == .ansi || d == .sqlite)
  match u, args with
  | "DATE_TO_DATE_STR", a :: _ | "TIME_TO_TIME_STR", a :: _ => some (castOf "TEXT" a)
  | "TS_OR_DS_TO_DATE_STR", a :: _ =>
    let parts := [castOf "TEXT" a, numberOf "1", numberOf "10"]
    some (if d.keepsFunctionCase then callOf "SUBSTRING" parts else .of .substring parts)
  | "STRING", [a] => if d == .bigquery then none else some (castOf "VARCHAR" a)
  | "INT64", [a] => if d == .bigquery then none else some (castOf "BIGINT" a)
  | "FROM_ISO8601_TIMESTAMP", [a] => if isPresto then none else some (castOf "TIMESTAMPTZ" a)
  | "FROM_ISO8601_DATE", [a] => if isPresto then none else some (castOf "DATE" a)
  | "DATE_STR_TO_DATE", [a] =>
    if hasTimeCasts && d != .oracle && d != .clickhouse then some (castOf "DATE" a) else none
  | "TIME_STR_TO_TIME", [a] => if hasTimeCasts then some (castOf "TIMESTAMP" a) else none
  | "TIME_STR_TO_TIME", [_, _] =>
    if hasTimeCasts then some (castFirst d "TIMESTAMPTZ" args) else none
  | "TS_OR_DS_TO_TIME", [a] => if d == .bigquery then none else some (castOf "TIME" a)
  | "TS_OR_DS_TO_TIME", [a, f] =>
    some (castOf "TIME" (callOf "STR_TO_TIME" [a, standardFormat d f]))
  | "TS_OR_DS_TO_TIMESTAMP", [a] =>
    if d == .bigquery || d == .sqlite then none else some (castOf "TIMESTAMP" a)
  | "TS_OR_DS_TO_DATETIME", [a] => if d == .bigquery then none else some (castOf "DATETIME" a)
  | "TS_OR_DS_TO_DATE", [a] =>
    if d.likeMysql || d.likeHive || isPresto || d == .snowflake then none
    else some (castOf "DATE" a)
  | "TS_OR_DS_TO_DATE", [a, f] =>
    let shown := standardFormat d f
    if d.likeMysql then none
    else if isUsualFormat d shown then
      match d with
      | .hive | .spark | .databricks => some (phrase "TO_DATE($1)" [a, shown])
      | .presto | .trino => some (castOf "DATE" (castOf "TIMESTAMP" a))
      | _ => some (castOf "DATE" a)
    else if d.likeHive || d == .snowflake then some (phrase "TO_DATE($1, $2)" [a, shown])
    else some (castOf "DATE" (callOf "STR_TO_TIME" [a, shown]))
  | "TO_CHAR", _ =>
    match d with
    | .ansi | .bigquery | .clickhouse | .duckdb | .hive | .mysql | .spark | .sqlite | .starrocks
    | .tsql => some (castFirst d "TEXT" args)
    | .postgres | .redshift => if args.length == 1 then some (castFirst d "TEXT" args) else none
    | _ => none
  | "TO_DOUBLE", _ =>
    if d == .snowflake then none
    else some (phrase ("CAST($1 AS " ++ typeText d "DOUBLE" ++ ")") args)
  | "TO_NUMBER", [a] =>
    if d == .snowflake || d == .oracle then none else some (castOf "DOUBLE" a)
  | "TO_NUMBER", _ =>
    match d with
    | .bigquery | .clickhouse | .duckdb | .hive | .mysql | .presto | .sqlite | .starrocks | .trino
    | .tsql => some (castFirst d "DOUBLE" args)
    | _ => none
  | _, _ => none

def dateMeaning? (d : Dialect) (u : String) (args : List Expr) : Option Expr :=
  match u, args with
  | "UNIX_DATE", [a] =>
    if d == .bigquery then none
    else some (callOf "DATEDIFF" [a, firstDay d, .of (.words "DAY")])
  | "CONVERT_TIMEZONE", [z, a] =>
    match d with
    | .mysql | .redshift | .snowflake | .starrocks => none
    | _ => some (phrase (zonePattern d "$2" "$1") [z, a])
  | "CONVERT_TIMEZONE", _ :: _ :: _ :: _ =>
    match d with
    | .mysql | .redshift | .snowflake | .starrocks => none
    | _ =>
      let plain := "CAST($3 AS " ++ typeText d "TIMESTAMPNTZ" ++ ")"
      some (phrase (zonePattern d (zonePattern d plain "$1") "$2") args)
  | "GENERATE_DATE_ARRAY", [a, b] =>
    some (callOf "GENERATE_DATE_ARRAY" [a, b, .of (.interval (some "DAY")) [stringOf "1"]])
  | "STR_TO_DATE", a :: f :: r | "STR_TO_TIME", a :: f :: r | "TIME_TO_STR", a :: f :: r
  | "UNIX_TO_STR", a :: f :: r | "STR_TO_UNIX", a :: f :: r =>
    some (callOf u (a :: standardFormat d f :: r))
  | _, _ => none

def listMeaning? (d : Dialect) (u : String) (args : List Expr) : Option Expr :=
  match u, args with
  | "ARRAY_ANY", [list, condition] => someItem? d list condition
  | "ARRAY_AGG", [a, _] | "ARRAYAGG", [a, _] => some (callOf "ARRAY_AGG" [a])
  | "ARG_MAX", _ | "MAX_BY", _ | "ARGMAX", _ => some (callOf "ARG_MAX" (args.take 3))
  | "ARG_MIN", _ | "MIN_BY", _ | "ARGMIN", _ => some (callOf "ARG_MIN" (args.take 3))
  | "UUID", _ | "GENERATE_UUID", _ => some (callOf "UUID" [])
  | "IIF", _ => some (callOf "IF" args)
  | "UNNEST", a :: _ =>
    if d == .postgres || d == .duckdb then none
    else some (phrase (if d.likeHive then "EXPLODE($1)" else "UNNEST($1)") [a])
  | "JSON_ARRAY", _ :: _ =>
    if d == .bigquery || d == .oracle then none else some (.of .unwritable args)
  | "STRUCT_EXTRACT", [a, b] =>
    let field := Phrase.literal ((Name.ofText b.nameText).render d)
    if d.likePostgres || d.likeHive || d == .presto || d == .trino then
      some (phrase ("$1." ++ field) [a, b])
    else none
  | "JSON_EXTRACT", a :: b :: r => some (extracted d false a b r)
  | "JSON_EXTRACT_SCALAR", a :: b :: _ | "JSON_EXTRACT_PATH_TEXT", a :: b :: _ =>
    some (extracted d true a b [])
  | "ARRAY", q :: _ => if q.isQuery then none else some (.of (.arrayLiteral "ARRAY") args)
  | "ARRAY", [] => some (.of (.arrayLiteral "ARRAY"))
  | "TO_ARRAY", [a] =>
    if d == .snowflake then none
    else match a.form with
      | .arrayLiteral _ => some a
      | _ => none
  | "VAR_MAP", _ =>
    match d with
    | .hive | .spark | .databricks => some (pairedMap "MAP" args)
    | .clickhouse => some (pairedMap "map" args)
    | .snowflake => some (pairedMap "OBJECT_CONSTRUCT" args)
    | _ =>
      let evens := (args.zipIdx.filter fun p => p.2 % 2 == 0).map (·.1)
      let odds := (args.zipIdx.filter fun p => p.2 % 2 == 1).map (·.1)
      some (callOf "VAR_MAP" [.of (.arrayLiteral "ARRAY") evens, .of (.arrayLiteral "ARRAY") odds])
  | _, _ => none

def commonMeaning? (d : Dialect) (u : String) (args : List Expr) : Option Expr :=
  textMeaning? d u args <|> castMeaning? d u args <|> dateMeaning? d u args
    <|> listMeaning? d u args

end Function

end QueryFlow.Sql
