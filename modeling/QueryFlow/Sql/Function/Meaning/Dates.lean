import QueryFlow.Sql.Function.Parts
import QueryFlow.Sql.ValueKind

/-!
Dates that are moved by a count of units, and distances of dates, where a dialect says them by a
function or an operator of its own.
-/

namespace QueryFlow.Sql

namespace Function

/-- Names of zones that name no region. -/
def zoneWords : List String :=
  ["cet", "cst6cdt", "cuba", "eet", "egypt", "eire", "est", "est5edt", "gb", "gb-eire", "gmt",
   "gmt+0", "gmt-0", "gmt0", "greenwich", "hongkong", "hst", "iceland", "iran", "israel", "jamaica",
   "japan", "kwajalein", "libya", "met", "mst", "mst7mdt", "navajo", "nz", "nz-chat", "poland",
   "portugal", "prc", "pst8pdt", "roc", "rok", "singapore", "turkey", "uct", "universal", "utc",
   "w-su", "wet", "zulu"]

/-- Regions in which zones lie. -/
def zoneRegions : List String :=
  ["africa", "america", "antarctica", "arctic", "asia", "atlantic", "australia", "brazil", "canada",
   "chile", "etc", "europe", "indian", "mexico", "pacific", "us"]

def isZone (e : Expr) : Bool :=
  let name := Text.lower e.nameText
  zoneWords.contains name || match name.splitOn "/" with
    | region :: _ :: _ => zoneRegions.contains region
    | _ => false

/-- The type of the date or moment that a text stands for: a clock makes it a moment, and what
follows the clock a zone. -/
def dayOrMoment (s : String) : String :=
  match s.splitOn ":" with
  | _ :: r@(_ :: _) =>
    let marksZone (c : Char) : Bool := c.isAlpha || c == '+' || c == '-'
    if (":".intercalate r).any marksZone then "TIMESTAMPTZ" else "TIMESTAMP"
  | _ => "DATE"

/-- A text for a date or a moment as one; other values stay. -/
def readMoment (type : String) (e : Expr) : Expr :=
  match e.form with
  | .string s => castOf (if type == "DATE" then dayOrMoment s else type) e
  | _ => e

/-- A span of time whose units are counted one after the other, from years on. -/
def namedSpan (separator : String) (args : List Expr) : Expr :=
  let values := args.map fun e => match e with
    | .node (.namedArgument ..) _ [x] => x
    | e => e
  let units := ["year", "month", "week", "day", "hour", "minute", "second"]
  let gaps := (units.take values.length).zipIdx.map fun (unit, i) =>
    "$" ++ toString (i + 1) ++ " " ++ unit
  phrase ("INTERVAL '" ++ separator.intercalate gaps ++ "'") values

/-- A count as a whole number, which a value of another kind is cast to. -/
def wholeCount (n : Expr) : Expr := if n.kind == .whole then n else castOf "BIGINT" n

def negatedCount (n : Expr) : Expr :=
  .of (.binary .multiply) [shielded n, .of (.unary .negative) [numberOf "1"]]

/-- The unit among the arguments behind the first two; days without one. -/
def unitOrDay (more : List Expr) : String := ((more.head?).bind unit?).getD "DAY"

/-- The day of a date or of a text for one, which is read as a moment first. -/
def dayOf (e : Expr) : Expr := castOf "DATE" (castOf "TIMESTAMP" e)

/-- The units that counts of time since 1970 may have, by the digits they have below a second. -/
def countUnits : List (String × String) :=
  [("0", "SECONDS"), ("3", "MILLIS"), ("6", "MICROS"), ("9", "NANOS")]

/-- The moment so many units behind the first one of the year 1970. A second operand says how many
digits the count has below a second. -/
def momentOfCount? (d : Dialect) (args : List Expr) : Option Expr :=
  let unit? := match args with
    | _ :: scale :: _ => match scale.form with
      | .number s => countUnits.lookup s
      | _ => none
    | _ => none
  let scaled := args.length > 1
  let inSeconds := !scaled || unit? == some "SECONDS"
  let seconds := "$1 / POWER(10, $2)"
  let whole (s : String) : String := "CAST(" ++ s ++ " AS " ++ typeText d "BIGINT" ++ ")"
  let pattern? : Option String := match d with
    | .bigquery =>
      match if scaled then unit? else some "SECONDS" with
      | some "NANOS" | none => some ("TIMESTAMP_SECONDS(" ++ whole seconds ++ ")")
      | some unit => some ("TIMESTAMP_" ++ unit ++ "($1)")
    | .databricks | .spark =>
      match unit? with
      | some "NANOS" | none =>
        some (if scaled then "TIMESTAMP_SECONDS(" ++ seconds ++ ")"
          else "CAST(FROM_UNIXTIME($1) AS TIMESTAMP)")
      | some unit => some ("TIMESTAMP_" ++ unit ++ "($1)")
    | .clickhouse =>
      let name := match unit? with
        | some "MILLIS" => "fromUnixTimestamp64Milli"
        | some "MICROS" => "fromUnixTimestamp64Micro"
        | some "NANOS" => "fromUnixTimestamp64Nano"
        | _ => "fromUnixTimestamp"
      some (name ++ "(" ++ whole (if scaled && unit?.isNone then seconds else "$1") ++ ")")
    | .mysql => if inSeconds then none else some ("FROM_UNIXTIME(" ++ seconds ++ ")")
    | .presto | .trino =>
      if inSeconds then none else some "FROM_UNIXTIME(CAST($1 AS DOUBLE) / POW(10, $2))"
    | .oracle => some "TO_DATE('1970-01-01', 'YYYY-MM-DD') + ($1 / 86400)"
    | .redshift =>
      let isWhole := match args with
        | _ :: .node (.number s) _ _ :: _ => isWholeNumber s
        | _ => false
      some ("(TIMESTAMP 'epoch' + "
        ++ (if isWhole && !inSeconds then "($1 / POWER(10, $2))" else "$1")
        ++ " * INTERVAL '1 SECOND')")
    | .postgres => if inSeconds then some "TO_TIMESTAMP($1)" else none
    | _ => none
  pattern?.map fun pattern => phrase pattern args

/-- A text read as a moment and given as seconds. It may hold a zone, which only the second way to
read it knows. -/
def secondsOfText (text format : Expr) : Expr :=
  let moment := match text.form with
    | .string _ => castOf "TIMESTAMP" text
    | _ => text
  let given := standardFormat .presto format
  let letters := standardFormat .hive format
  phrase ("TO_UNIXTIME(COALESCE(TRY(DATE_PARSE($1, $2)), "
    ++ "PARSE_DATETIME(DATE_FORMAT($3, $2), $4)))") [castOf "TEXT" text, given, moment, letters]

/-- A sequence of values from a start to an end. Where one of them is cast to a date or a moment,
the other one is too. -/
def sequenceOf (start finish : Expr) (step : List Expr) : Expr :=
  let type? (e : Expr) : Option String :=
    match e.form with
    | .cast (.simple t []) _ => some t
    | _ => none
  let isTime (t : String) : Bool := t == "DATE" || t == "TIMESTAMP"
  let (start, finish) := match type? start, type? finish with
    | some t, _ => if isTime t then (start, castOf t finish) else (start, finish)
    | none, some t => if isTime t then (castOf t start, finish) else (start, finish)
    | none, none => (start, finish)
  phrase "SEQUENCE(@1)" (start :: finish :: step)

/-- A sequence of dates, one for each day where no step is given. -/
def dailySequence (start finish : Expr) (step : List Expr) : Expr :=
  sequenceOf start finish
    (if step.isEmpty then [.of (.interval (some "DAY")) [stringOf "1"]] else step)

/-- A moment in a zone of clocks. What is no zone is part of the text for the moment. -/
def zonedMoment (d : Dialect) (moment zone : Expr) : Expr :=
  if isZone zone then zoned d (castOf "TIMESTAMP" moment) zone
  else phrase "TIMESTAMP($1, $2)" [moment, zone]

def movedBySpan (sign : String) (date count : Expr) (unit : String) : Expr :=
  let date := match date.form with
    | .string _ => castOf "DATE" date
    | _ => date
  let span := match count.form with
    | .interval _ => count
    | _ => .of (.interval (some unit)) [count]
  phrase ("$1 " ++ sign ++ " $2") [date, span]

/-- A date, or a text for one, that is moved by an operator and a span of time. -/
def plainSpan (sign : String) (date count : Expr) (unit : String) : Expr :=
  let span := match count.form with
    | .interval _ => count
    | _ => .of (.interval (some unit)) [count]
  phrase ("$1 " ++ sign ++ " $2") [date, span]

/-- What is added to a date by a function of this name: positive and negative counts. -/
def movedSign? (u : String) : Option String :=
  match u with
  | "DATE_ADD" | "DATETIME_ADD" | "TIMESTAMP_ADD" | "TIME_ADD" => some "+"
  | "DATE_SUB" | "DATETIME_SUB" | "TIMESTAMP_SUB" | "TIME_SUB" => some "-"
  | _ => none

/-- A moved date by a function that asks for the unit, the count and the date, in this order. -/
def movedByUnit (name unit : String) (date count : Expr) : Expr :=
  phrase (name ++ "(" ++ Phrase.literal unit ++ ", $2, $1)") [date, count]

/-- A date moved by a span, as a function of the date and the span. -/
def movedByInterval (name : String) (date count : Expr) (unit : String) : Expr :=
  phrase (name ++ "($1, $2)") [date, .of (.interval (some unit)) [count]]

def modifierText (count : Expr) : Option String :=
  match count with
  | .node (.string s) _ _ | .node (.number s) _ _ => some s
  | .node (.unary .negative) _ [.node (.number s) _ _] => some ("-" ++ s)
  | _ => none

/-- Dates that are moved in dialects without a rule of their own for it. -/
def movedMoment? (d : Dialect) (u : String) (args : List Expr) : Option Expr :=
  match d, args with
  | .duckdb, a :: n :: r =>
    let date := if u == "DATETIME_ADD" || u == "DATETIME_SUB" then
        match a.form with
        | .string _ => castOf "DATETIME" a
        | _ => a
      else a
    if u == "DATE_SUB" then none
    else (movedSign? u).map fun sign => movedBySpan sign date n (unitOrDay r)
  | .presto, a :: n :: r | .trino, a :: n :: r =>
    if u == "DATE_SUB" then
      some (movedByUnit "DATE_ADD" ("'" ++ unitOrDay r ++ "'") a (negatedCount (wholeCount n)))
    else none
  | .tsql, a :: n :: r =>
    if u == "DATE_ADD" then some (movedByUnit "DATEADD" (unitOrDay r) a n) else none
  | .mysql, a :: n :: r | .starrocks, a :: n :: r =>
    match u with
    | "TIMESTAMP_ADD" => some (movedByInterval "DATE_ADD" a n (unitOrDay r))
    | "TIMESTAMP_SUB" => some (movedByInterval "DATE_SUB" a n (unitOrDay r))
    | _ => none
  | .sqlite, a :: n :: r =>
    if u == "DATE_ADD" then
      let tail := match r.head?.bind unit? with
        | some unit => " " ++ unit
        | none => ""
      some (match modifierText n with
        | some s => phrase ("DATE($1, '" ++ Phrase.literal (s ++ tail) ++ "')") [a]
        | none => phrase ("DATE($1, '$2" ++ Phrase.literal tail ++ "')") [a, n])
    else none
  | .clickhouse, p :: n :: a :: _ =>
    match u with
    | "DATE_ADD" | "DATEADD" => some (phrase "DATE_ADD($3, $2, $1)" [a, n, unitArgument p])
    | "DATE_SUB" | "DATESUB" => some (phrase "DATE_SUB($3, $2, $1)" [a, n, unitArgument p])
    | "TIMESTAMP_ADD" | "TIMESTAMPADD" =>
      some (phrase "TIMESTAMP_ADD($3, $2, $1)" [a, n, unitArgument p])
    | "TIMESTAMP_SUB" | "TIMESTAMPSUB" =>
      some (phrase "TIMESTAMP_SUB($3, $2, $1)" [a, n, unitArgument p])
    | _ => none
  | _, _ => none

def movedText? (d : Dialect) (args : List Expr) : Option Expr :=
  match args with
  | a :: n :: r =>
    let unit := unitOrDay r
    match d with
    | .presto | .trino => some (movedByUnit "DATE_ADD" ("'" ++ unit ++ "'") (dayOf a) n)
    | .snowflake | .tsql => some (movedByUnit "DATEADD" unit (dayOf a) n)
    | .redshift => some (movedByUnit "DATEADD" unit a n)
    | .duckdb => some (movedBySpan "+" (castOf "DATE" a) n unit)
    | .bigquery => some (movedByInterval "DATE_ADD" (dayOf a) n unit)
    | .mysql | .starrocks => some (movedByInterval "DATE_ADD" a n unit)
    | _ => none
  | _ => none

def textDistance? (d : Dialect) (args : List Expr) : Option Expr :=
  match args with
  | a :: b :: r =>
    let unit := Phrase.literal (unitOrDay r)
    match d with
    | .presto | .trino =>
      some (phrase ("DATE_DIFF('" ++ unit
        ++ "', $2, $1)") [castOf "TIMESTAMP" a, castOf "TIMESTAMP" b])
    | .snowflake | .redshift | .tsql => some (phrase ("DATEDIFF(" ++ unit ++ ", $2, $1)") [a, b])
    | .bigquery =>
      some (phrase ("DATE_DIFF($1, $2, " ++ unit
        ++ ")") [castOf "TIMESTAMP" a, castOf "TIMESTAMP" b])
    | .duckdb =>
      some (phrase ("DATE_DIFF('" ++ unit
        ++ "', $2, $1)") [castOf "TIMESTAMP" a, castOf "TIMESTAMP" b])
    | _ => none
  | _ => none

def truncatedMoment? (d : Dialect) (args : List Expr) : Option Expr :=
  match args with
  | a :: p :: _ =>
    match d with
    | .databricks | .duckdb | .presto | .snowflake | .spark | .trino =>
      some (phrase "DATE_TRUNC($2, $1)" [a, unitString p])
    | .hive | .oracle => some (phrase "TRUNC($1, $2)" [a, unitString p])
    | _ => none
  | _ => none

def laterDay (d : Dialect) (date count : Expr) : Expr :=
  match d with
  | .duckdb => movedBySpan "+" date count "DAY"
  | .presto | .trino => movedByUnit "DATE_ADD" "'DAY'" date (wholeCount count)
  | .databricks | .redshift | .snowflake | .tsql => movedByUnit "DATEADD" "DAY" date count
  | .clickhouse => movedByUnit "DATE_ADD" "DAY" date count
  | .mysql | .starrocks => movedByInterval "DATE_ADD" date count "DAY"
  | .hive | .spark => phrase "DATE_ADD($1, $2)" [date, count]
  | _ => callOf "DATE_ADD" [date, count, .of (.words "DAY")]

/-- The date so many days behind the first day of the year 1970. -/
def dayOfCount? (d : Dialect) (count : Expr) : Option Expr :=
  match d with
  | .bigquery | .databricks | .spark => none
  | _ => some (laterDay d (firstDay d) count)

/-- Moved dates, distances and starts of units. -/
def momentMeaning? (d : Dialect) (u : String) (args : List Expr) : Option Expr :=
  match u with
  | "DATE_FROM_UNIX_DATE" => args.head?.bind (dayOfCount? d)
  | "TS_OR_DS_ADD" => movedText? d args
  | "UNIX_TO_TIME" => momentOfCount? d args
  | "TS_OR_DS_DIFF" => textDistance? d args
  | "TIMESTAMP_TRUNC" => truncatedMoment? d args
  | _ => movedMoment? d u args

end Function

end QueryFlow.Sql
