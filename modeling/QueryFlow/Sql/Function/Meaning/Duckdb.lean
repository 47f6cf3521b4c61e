import QueryFlow.Sql.Function.Meaning.Dates

/-!
Functions as duckdb reads them. Dates are moved by operators here, and much of what other dialects
have a function for is said by a choice by cases or by another function.
-/

namespace QueryFlow.Sql

namespace Function

/-- A list in an order. What says that it goes down, or that nulls come first, may be a truth value
or a word. -/
def sortedList (list : Expr) (rules : List Expr) : Expr :=
  let truth? (e : Expr) : Option Bool :=
    match e.form with
    | .boolean b => some b
    | _ => none
  let nulls := ((rules.drop 1).head?.bind truth?).getD false
  match rules with
  | [] => phrase "LIST_SORT($1)" [list]
  | up :: r =>
    match truth? up with
    | none => phrase "LIST_SORT(@1)" (list :: up :: r)
    | some true =>
      phrase (if nulls then "LIST_SORT($1, 'ASC', 'NULLS FIRST')" else "LIST_SORT($1)")
        (list :: up :: r)
    | some false =>
      phrase (if nulls then "LIST_SORT($1, 'DESC', 'NULLS FIRST')" else "ARRAY_REVERSE_SORT($1)")
        (list :: up :: r)

def wholePlaces (e : Expr) : Expr :=
  match e with
  | .node (.number s) _ _ | .node (.unary .negative) _ [.node (.number s) _ _] =>
    if isWholeNumber s then e else castOf "INT" e
  | .node (.cast _ _) _ _ => if e.kind == .whole then e else castOf "INT" e
  | _ => castOf "INT" e

def roundedTo (name : String) (x places : Expr) : Expr :=
  phrase ("ROUND(" ++ name ++ "(%1 * POWER(10, $2)) / POWER(10, $2), $2)") [x, wholePlaces places]

/-- Something is said of a moment in a zone, so that its clock has to be read first. -/
def momentInZone (type : String) (moment zone : Expr) : Expr :=
  castOf type (.of (.binary .atTimeZone) [castOf "TIMESTAMPTZ" moment, zone])

def weekDays : List String :=
  ["MONDAY", "TUESDAY", "WEDNESDAY", "THURSDAY", "FRIDAY", "SATURDAY", "SUNDAY"]

/-- The number of a day of the week, as a pattern that takes the name from the second operand when
the name is no literal. -/
def weekDayPattern? (day : Expr) : Option String :=
  let numbered := weekDays.zipIdx 1
  match day.form with
  | .string s =>
    let start := Text.upper s
    (numbered.find? fun p => !start.isEmpty && p.1.startsWith start).map fun p => toString p.2
  | _ =>
    let branches := numbered.map fun (name, n) =>
      " WHEN STARTS_WITH(UPPER($2), '" ++ name.take 2 ++ "') THEN " ++ toString n
    some ("CASE" ++ String.join branches ++ " END")

/-- The next or the last date before that is a given day of the week. -/
def nearestDay? (later : Bool) (date day : Expr) : Option Expr :=
  (weekDayPattern? day).map fun wanted =>
    let distance := if later then wanted ++ " - ISODOW($1)" else "ISODOW($1) - " ++ wanted
    phrase ("CAST($1 " ++ (if later then "+" else "-") ++ " INTERVAL ((((" ++ distance
      ++ ") + 6) %% 7) + 1) DAY AS DATE)") [date, day]

/-- The last day of the unit that a date lies in. -/
def lastDay? (date part : Expr) : Option Expr :=
  match unit? part with
  | some "MONTH" => some (phrase "LAST_DAY($1)" [date])
  | some "YEAR" => some (phrase "MAKE_DATE(EXTRACT(YEAR FROM $1), 12, 31)" [date])
  | some "QUARTER" =>
    some (phrase
      "LAST_DAY(MAKE_DATE(EXTRACT(YEAR FROM $1), EXTRACT(QUARTER FROM $1) * 3, 1))" [date])
  | some "WEEK" =>
    some (phrase "CAST($1 + INTERVAL ((7 - EXTRACT(DAYOFWEEK FROM $1)) %% 7) DAY AS DATE)" [date])
  | _ => none

/-- How many months lie between two dates; days that are left over count as parts of a month. -/
def monthsBetween (finish start : Expr) : Expr :=
  phrase ("DATE_DIFF('MONTH', $2, $1) + CASE WHEN DAY($2) = DAY(LAST_DAY($2)) AND "
    ++ "DAY($1) = DAY(LAST_DAY($1)) THEN 0 ELSE (DAY($1) - DAY($2)) / 31.0 END")
    [castOf "DATE" finish, castOf "DATE" start]

/-- The distance of two values in a unit, which is a string. -/
def distanceOf (finish start : Expr) (unit : String) : Expr :=
  phrase ("DATE_DIFF('" ++ Phrase.literal unit ++ "', $2, $1)") [finish, start]

/-- The moment so many units behind the first one of the year 1970; the scale says how many digits
the count has below a second. -/
def momentBehindEpoch (count : Expr) (scale : Expr) : Expr :=
  match scale with
  | .node (.number "0") _ _ => phrase "TO_TIMESTAMP($1)" [count, scale]
  | .node (.number "3") _ _ => phrase "EPOCH_MS($1)" [count, scale]
  | .node (.number "6") _ _ => phrase "MAKE_TIMESTAMP($1)" [count, scale]
  | _ => phrase "TO_TIMESTAMP($1 / POWER(10, $2))" [count, scale]

def duckdbDate? (u : String) (args : List Expr) : Option Expr :=
  match u, args with
  | "TODAY", [] => some (.of (.moment "CURRENT_DATE"))
  | "GET_CURRENT_TIME", [] => some (.of (.moment "CURRENT_TIME"))
  | "CURRENT_LOCALTIMESTAMP", [] => some (.of (.moment "LOCALTIMESTAMP"))
  | "DATETRUNC", [p, a] => some (phrase "DATE_TRUNC($2, $1)" [a, unitString p])
  | "DATETIME_TRUNC", [a, p] =>
    some (phrase "DATE_TRUNC($2, $1)" [castOf "TIMESTAMP" a, unitString p])
  | "DATE", [a] => some (castOf "DATE" a)
  | "DATE", a :: z :: r =>
    some (phrase ("STRPTIME(STRFTIME(CAST($1 AS DATE), '%%d/%%m/%%Y') || ' ' || $2, "
      ++ "'%%d/%%m/%%Y %%Z')") (a :: z :: r))
  | "TIME", [a] =>
    some (phrase "CAST($1 AT TIME ZONE  AS TIME)" [castOf "TIMESTAMPTZ" a])
  | "TIME", [a, z] => some (momentInZone "TIME" a z)
  | "DATETIME", [a] => some (.of .unwritable [a])
  | "DATETIME", [a, z] =>
    if isZone z then some (momentInZone "TIMESTAMP" a z)
    else some (castOf "TIMESTAMP" (.of (.binary .add) [castOf "DATE" a, castOf "TIME" z]))
  | "TIMESTAMP", [a] => some (castOf "TIMESTAMP" a)
  | "TIMESTAMP", [a, z] => some (zonedMoment .duckdb a z)
  | "TIMESTAMP_DIFF", a :: b :: r | "TIMESTAMPDIFF", a :: b :: r =>
    some (distanceOf a b ((r.head?.bind unit?).getD "None"))
  | "DATETIME_DIFF", a :: b :: r =>
    some (distanceOf (readMoment "DATE" a) (readMoment "DATE" b) (unitOrDay r))
  | "TIME_DIFF", a :: b :: r =>
    some (distanceOf (readMoment "TIME" a) (readMoment "TIME" b) (unitOrDay r))
  | "ADD_MONTHS", a :: n :: _ =>
    some (phrase "$1 + $2" [a, .of (.interval (some "MONTH")) [n]])
  | "MONTHS_BETWEEN", a :: b :: _ => some (monthsBetween a b)
  | "NEXT_DAY", [a, day] => nearestDay? true a day
  | "PREVIOUS_DAY", [a, day] => nearestDay? false a day
  | "LAST_DAY", [a, p] | "LAST_DAY_OF_MONTH", [a, p] => lastDay? a p
  | "TIME_SLICE", a :: n :: p :: r =>
    let span := Expr.of (.interval (unit? p)) [n]
    let isEnd := r.head?.any fun k => Text.upper k.nameText == "END"
    some (phrase (if isEnd then "TIME_BUCKET($2, $1) + $2" else "TIME_BUCKET($2, $1)") [a, span])
  | "UNIX_TO_TIME", a :: scale :: _ | "TO_TIMESTAMP", a :: scale :: _ =>
    some (momentBehindEpoch a scale)
  | "GENERATE_DATE_ARRAY", a :: b :: r =>
    let step := r.head?.getD (.of (.interval (some "DAY")) [stringOf "1"])
    some (phrase "CAST(GENERATE_SERIES($1, $2, $3) AS DATE[])"
      [readMoment "DATE" a, readMoment "DATE" b, step])
  | "GENERATE_TIMESTAMP_ARRAY", a :: b :: r =>
    some (phrase "GENERATE_SERIES(@1)" (readMoment "TIMESTAMP" a :: readMoment "TIMESTAMP" b :: r))
  | "TIME_FROM_PARTS", [a, b, c, n] | "MAKE_TIME", [a, b, c, n] =>
    some (phrase "MAKE_TIME($1, $2, %3 + (%4 / 1000000000.0))" [a, b, c, n])
  | _, _ => none

def duckdbMeaning? (u : String) (args : List Expr) : Option Expr :=
  duckdbDate? u args <|> match u, args with
  | "RANGE", [n] | "GENERATE_SERIES", [n] => some (phrase (u ++ "(0, $1)") [n])
  | "ENCODE", a :: _ | "DECODE", a :: _ => some (phrase (u ++ "($1)") [a])
  | "ARRAY_PREPEND", [a, b] | "LIST_PREPEND", [a, b] =>
    some (phrase "LIST_PREPEND($2, $1)" [b, a])
  | "XOR", [a, b] => some (phrase "XOR($1, $2)" [a, b])
  | "SORT_ARRAY", a :: r | "ARRAY_SORT", a :: r | "LIST_SORT", a :: r => some (sortedList a r)
  | "LIST_REVERSE_SORT", a :: _ | "ARRAY_REVERSE_SORT", a :: _ =>
    some (phrase "ARRAY_REVERSE_SORT($1)" [a])
  | "LIST_VALUE", _ => some (.of (.arrayLiteral "ARRAY") args)
  | "ROUND", a :: n :: r => some (phrase "ROUND(@1)" (a :: wholePlaces n :: r))
  | "ANY_VALUE", [.node (.phrase "$1 HAVING MAX $2") _ [a, b]] =>
    some (phrase "ARG_MAX_NULL($1, $2)" [a, b])
  | "ANY_VALUE", [.node (.phrase "$1 HAVING MIN $2") _ [a, b]] =>
    some (phrase "ARG_MIN_NULL($1, $2)" [a, b])
  | "OBJECT_INSERT", a :: key :: v :: r =>
    some (phrase ("STRUCT_INSERT($1, " ++ Phrase.literal key.nameText
      ++ " := $3)") (a :: key :: v :: r))
  | "SHA2", a :: r => some (phrase "SHA256($1)" (a :: r))
  | "ARRAY_CONSTRUCT_COMPACT", _ =>
    some (callOf "ARRAY_COMPACT" [.of (.arrayLiteral "ARRAY") args])
  | "MAKE_INTERVAL", _ => some (namedSpan " " args)
  | _, _ => none

end Function

end QueryFlow.Sql
