import QueryFlow.Sql.DataType.Spelling
import QueryFlow.Sql.DatePart
import QueryFlow.Sql.Expr
import QueryFlow.Sql.Function
import QueryFlow.Sql.JsonPath
import QueryFlow.Sql.Phrase
import QueryFlow.Sql.TimeFormat

/-!
Pieces of trees that stand for functions: calls by a standard name, patterns, casts, units of time,
date formats and paths into documents.
-/

namespace QueryFlow.Sql

namespace Function

/-- Names of the present moment and of the user that need no parentheses. -/
def momentWords (d : Dialect) : List String :=
  let byZone := match d with
    | .duckdb | .mysql | .postgres | .presto | .redshift | .snowflake | .starrocks | .trino => true
    | _ => false
  ["CURRENT_DATE", "CURRENT_TIME", "CURRENT_USER", "CURRENT_ROLE"]
    ++ (if d == .clickhouse then [] else ["CURRENT_TIMESTAMP"])
    ++ (if d == .bigquery then ["CURRENT_DATETIME"] else [])
    ++ (if byZone then ["LOCALTIME", "LOCALTIMESTAMP"] else [])
    ++ (if d.likePostgres || d == .duckdb || d == .trino then ["CURRENT_CATALOG"] else [])
    ++ (if d.likePostgres || d == .duckdb || d.likeMysql then ["SESSION_USER"] else [])
    ++ (if d.likePostgres then ["CURRENT_SCHEMA"] else [])
    ++ (if d.likeMysql then ["UTC_DATE", "UTC_TIME", "UTC_TIMESTAMP"] else [])
    ++ (if d == .tsql then ["SYSTEM_USER"] else [])

/-- Names of the present moment and of the user with nothing in their parentheses. -/
def isMomentCall (d : Dialect) (u : String) : Bool :=
  (momentWords d).contains u ||
    ["CURRENT_TIMESTAMP", "LOCALTIME", "LOCALTIMESTAMP", "CURRENT_CATALOG",
      "SESSION_USER"].contains u

/-- An operand that is itself an operation gets parentheses. -/
def shielded (e : Expr) : Expr :=
  match e.form with
  | .binary _ => .of .paren [e]
  | _ => e

def callOf (name : String) (args : List Expr) : Expr := .of (.call name name true) args

/-- What a function with this name and these arguments is taken for. A call by a standard name keeps
the name as it is written where names are kept, and a cast may give a null where types do not say
otherwise. -/
def withWritten (d : Dialect) (written : String) (args : List Expr) (e : Expr) : Expr :=
  match e with
  | .node (.cast target false) n [x] =>
    let isGiven := match args.map Expr.form, target with
      | [.cast (.simple given []) _], .simple wanted [] => given == wanted
      | _, _ => false
    if d == .clickhouse && !isGiven then .node (.cast target true) n [x] else e
  | .node (.call name shown true) n xs =>
    let fixed := ["DATEDIFF", "DATE_TRUNC", "JSON_EXTRACT", "JSON_EXTRACT_SCALAR",
      "JSON_VALUE_ARRAY"]
    if d.keepsFunctionCase && name == shown && !fixed.contains name then
      .node (.call name written true) n xs
    else e
  | e => e

def stringOf (s : String) : Expr := .of (.string s)

def numberOf (s : String) : Expr := .of (.number s)

def phrase (pattern : String) (args : List Expr) : Expr := .of (.phrase pattern) args

/-- A value as one of a standard type. A value that is cast to the type already stays. -/
def castOf (standard : String) (e : Expr) : Expr :=
  match e.form with
  | .cast (.simple t []) _ =>
    if t == standard then e else .of (.cast (.simple standard []) false) [e]
  | _ => .of (.cast (.simple standard []) false) [e]

/-- The first day of the year 1970, from which days are counted. -/
def firstDay (d : Dialect) : Expr :=
  .of (.cast (.simple "DATE" []) (d == .clickhouse)) [stringOf "1970-01-01"]

def typeText (d : Dialect) (standard : String) : String :=
  let shown := (DataType.simple standard []).renderCast d
  Phrase.literal (if d == .clickhouse then "Nullable(" ++ shown ++ ")" else shown)

/-- The first of several operands as one of a standard type; the others are looked at but not
written. -/
def castFirst (d : Dialect) (standard : String) (args : List Expr) : Expr :=
  match args with
  | [a] => castOf standard a
  | _ =>
    if d == .mysql && standard == "TIMESTAMPTZ" then phrase "TIMESTAMP($1)" args
    else phrase ("CAST($1 AS " ++ typeText d standard ++ ")") args

/-- The marks for so many operands from a place on. -/
def marks (places : List Nat) : String :=
  ", ".intercalate (places.map fun n => "$" ++ toString n)

def shortUnits : List (String × String) :=
  [("D", "DAY"), ("H", "HOUR"), ("M", "MINUTE"), ("MS", "MILLISECOND"), ("NS", "NANOSECOND"),
   ("Q", "QUARTER"), ("S", "SECOND"), ("US", "MICROSECOND"), ("W", "WEEK"), ("Y", "YEAR")]

/-- A unit of time in capitals, without abbreviation. -/
def unitText (s : String) : String :=
  let u := Text.upper s
  (shortUnits.lookup u).getD u

/-- A unit of time as a function names it: only short names in capitals are known. -/
def unitName (s : String) : String := Text.upper ((shortUnits.lookup s).getD s)

/-- The unit of time that an argument names. A week may be counted from one of its days. -/
def unit? (e : Expr) : Option String :=
  match e with
  | .node (.column [n]) _ _ => some (unitName n.text)
  | .node (.string s) _ _ | .node (.words s) _ _ | .node (.number s) _ _ => some (unitName s)
  | .node (.call "WEEK" _ true) _ [day] | .node .extract _ [.node (.words "WEEK") _ _, day] =>
    some ("WEEK(" ++ Text.upper day.nameText ++ ")")
  | _ => none

/-- A unit of time as a word, which may be a short one for a part of a date. -/
def partArgument (d : Dialect) (e : Expr) : Expr :=
  match e with
  | .node (.column [n]) _ _ =>
    .of (.words (((DatePart.full? d n.text).map Text.upper).getD (unitName n.text)))
  | .node (.string s) _ _ | .node (.words s) _ _ =>
    .of (.words (((DatePart.full? d s).map Text.upper).getD (unitName s)))
  | e => match unit? e with
    | some u => .of (.words u)
    | none => e

/-- A unit of time as an argument is no value but a word. -/
def unitArgument (e : Expr) : Expr :=
  match unit? e with
  | some u => .of (.words u)
  | none => e

/-- A unit of time as a string; a week that is counted from one of its days stays a word. -/
def unitString (e : Expr) : Expr :=
  match e, unit? e with
  | .node (.call ..) .., some u | .node .extract .., some u => .of (.words u)
  | _, some u => .node (.string u) e.notes []
  | _, none => e

/-- A unit of time as a string, whose short names may be in small letters too. -/
def freeUnitString (e : Expr) : Expr :=
  match e with
  | .node (.column [n]) _ _ => .node (.string (unitText n.text)) e.notes []
  | .node (.string s) _ _ | .node (.words s) _ _ | .node (.number s) _ _ =>
    .node (.string (unitText s)) e.notes []
  | _ => match unit? e with
    | some u => stringOf u
    | none => e

def formatArgument (d : Dialect) (e : Expr) : Expr :=
  match e with
  | .node (.string s) n xs => .node (.string (TimeFormat.normalize d s)) n xs
  | e => e

/-- A date format in its standard form, given as a string, in the words of the dialect. -/
def standardFormat (d : Dialect) (e : Expr) : Expr :=
  match e with
  | .node (.string s) n xs => .node (.string (TimeFormat.written d s)) n xs
  | e => e

def formatSecond (d : Dialect) (name : String) (args : List Expr) : Expr :=
  phrase (name ++ "(@1)") (args.modify 1 (formatArgument d))

/-- Where a function has its unit of time among the arguments. -/
def unitPlace? : String → Option Nat
  | "DATE_ADD" | "DATE_SUB" | "DATETIME_ADD" | "DATETIME_SUB" | "DATETIME_DIFF" | "TIMESTAMP_ADD"
  | "TIMESTAMP_SUB" | "TIMESTAMPDIFF" | "TIMESTAMP_DIFF" | "TIME_ADD" | "TIME_SUB" | "TIME_DIFF"
  | "TS_OR_DS_ADD" | "TS_OR_DS_DIFF" | "DATE_BIN" | "TIME_SLICE" => some 2
  | "LAST_DAY" | "LAST_DAY_OF_MONTH" | "DATETIME_TRUNC" | "TIMESTAMP_TRUNC" | "TIME_TRUNC" => some 1
  | _ => none

def isWholeNumber (s : String) : Bool := !s.isEmpty && s.toList.all Text.isDigit

/-- The operand of an operation on JSON as a path, when it is a literal. -/
def path? (e : Expr) : Option JsonPath :=
  match e.form with
  | .string s => JsonPath.ofText? s
  | .number s => JsonPath.ofText? ("[" ++ s ++ "]")
  | _ => none

def pathText (d : Dialect) (p : JsonPath) : String :=
  if d == .snowflake || d == .clickhouse then p.innerText
  else if d.likeMysql || d == .duckdb then p.pointedText else p.text

def pathArgument (d : Dialect) (e : Expr) : Expr :=
  match e.form, path? e with
  | .string s, some p =>
    if d == .duckdb && (s.startsWith "/" || (s.splitOn "[#").length > 1) then e
    else stringOf (pathText d p)
  | .number _, some p => stringOf (pathText d p)
  | _, _ => e

/-- The keys that literals name, one after the other; none when some argument is no literal. -/
def literalKeys? : List Expr → Option (List Expr)
  | [] => some []
  | e :: r =>
    match e.form with
    | .string s | .number s =>
      (literalKeys? r).map fun ks => if s.isEmpty then ks else stringOf s :: ks
    | _ => none

/-- A text that is read as a document, unless it is one. -/
def asDocument (e : Expr) : Expr :=
  match e.form with
  | .call "PARSE_JSON" _ true | .call "JSON_EXTRACT" _ true => e
  | _ => callOf "PARSE_JSON" [e]

def extracted (d : Dialect) (scalar : Bool) (document path : Expr) (more : List Expr) : Expr :=
  let name := if scalar then "JSON_EXTRACT_SCALAR" else "JSON_EXTRACT"
  if d.likePostgres then
    match path? path with
    | some p => callOf name (document :: p.segments.map stringOf ++ more)
    | none => callOf name (document :: path :: more)
  else if d == .databricks && more.isEmpty then
    match path? path with
    | some p => phrase ("$1:" ++ Phrase.literal p.innerText) [document]
    | none => phrase "$1:$2" [document, path]
  else if d == .snowflake && !scalar then
    callOf name (asDocument document :: pathArgument d path :: more)
  else callOf name (document :: pathArgument d path :: more)

/-- What stands behind an arrow: a key or an index of a document. -/
def arrow (d : Dialect) (scalar : Bool) (document key : Expr) : Expr :=
  match d with
  | .postgres =>
    match key.form with
    | .string s => .of (.binary (if scalar then .jsonText else .jsonField))
        [document, .of (.words ("'" ++ s ++ "'"))]
    | .number _ => .of (.binary (if scalar then .jsonText else .jsonField)) [document, key]
    | _ => callOf (if scalar then "JSON_EXTRACT_SCALAR" else "JSON_EXTRACT") [document, key]
  | .redshift =>
    match literalKeys? [key] with
    | some ks => callOf (if scalar then "JSON_EXTRACT_SCALAR" else "JSON_EXTRACT") (document :: ks)
    | none => callOf (if scalar then "JSON_EXTRACT_SCALAR" else "JSON_EXTRACT") [document, key]
  | d => extracted d scalar document key []

/-- The pattern for a value as a clock in another zone shows it, from the patterns for both. -/
def zonePattern (d : Dialect) (value zone : String) : String :=
  match d with
  | .presto | .trino => "AT_TIMEZONE(" ++ value ++ ", " ++ zone ++ ")"
  | .bigquery => "TIMESTAMP(DATETIME(" ++ value ++ ", " ++ zone ++ "))"
  | .spark | .databricks => "FROM_UTC_TIMESTAMP(" ++ value ++ ", " ++ zone ++ ")"
  | .snowflake => "CONVERT_TIMEZONE(" ++ zone ++ ", " ++ value ++ ")"
  | .mysql | .starrocks => value
  | _ => value ++ " AT TIME ZONE " ++ zone

/-- A value as a clock in another zone shows it. -/
def zoned (d : Dialect) (e z : Expr) : Expr :=
  match d with
  | .presto | .trino | .bigquery | .spark | .databricks | .snowflake | .mysql | .starrocks =>
    phrase (zonePattern d "$1" "$2") [e, z]
  | _ => .of (.binary .atTimeZone) [e, z]

/-- The distance of two dates where a dialect counts days or months. -/
def elapsedText (unit finish start : String) : String :=
  let seconds := "UNIX_TIMESTAMP(" ++ finish ++ ") - UNIX_TIMESTAMP(" ++ start ++ ")"
  let months := "MONTHS_BETWEEN(" ++ finish ++ ", " ++ start ++ ")"
  let days := "DATEDIFF(" ++ finish ++ ", " ++ start ++ ")"
  match unit with
  | "MILLISECOND" => "(" ++ seconds ++ ") * 1000"
  | "SECOND" => seconds
  | "MINUTE" => "(" ++ seconds ++ ") / 60"
  | "HOUR" => "(" ++ seconds ++ ") / 3600"
  | "YEAR" => "CAST(" ++ months ++ " / 12 AS INT)"
  | "QUARTER" => "CAST(" ++ months ++ " / 3 AS INT)"
  | "MONTH" => "CAST(" ++ months ++ " AS INT)"
  | "WEEK" => "CAST(" ++ days ++ " / 7 AS INT)"
  | _ => days

/-- Several keys with their values: the keys are looked at before the values. -/
def pairedMap (name : String) (args : List Expr) : Expr :=
  let evens := (args.zipIdx.filter fun p => p.2 % 2 == 0).map (·.1)
  let odds := (args.zipIdx.filter fun p => p.2 % 2 == 1).map (·.1)
  let places := (List.range odds.length).flatMap fun i => [i + 1, evens.length + i + 1]
  phrase (name ++ "(" ++ marks places ++ ")") (evens ++ odds)

end Function

end QueryFlow.Sql
