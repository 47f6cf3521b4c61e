import QueryFlow.Sql.Function.Meaning.Dates

/-!
Functions as hive, spark and databricks read them.
-/

namespace QueryFlow.Sql

namespace Function

/-- Types whose names are functions that cast to them. -/
def castNames : List (String × String) :=
  [("BOOLEAN", "BOOLEAN"), ("DATE", "DATE"), ("DOUBLE", "DOUBLE"), ("FLOAT", "FLOAT"),
   ("INT", "INT"), ("STRING", "TEXT"), ("TIMESTAMP", "TIMESTAMP"),
   ("TIMESTAMP_LTZ", "TIMESTAMPLTZ"), ("TIMESTAMP_NTZ", "TIMESTAMPNTZ")]

/-- A unit by which dates are moved, in the units that there are functions for. -/
def stepOfUnit (unit : String) : String × Nat :=
  match unit with
  | "YEAR" => ("ADD_MONTHS", 12)
  | "QUARTER" => ("ADD_MONTHS", 3)
  | "MONTH" => ("ADD_MONTHS", 1)
  | "WEEK" => ("DATE_ADD", 7)
  | _ => ("DATE_ADD", 1)

/-- A date that is moved in hive, which knows days and months only. -/
def movedBySteps (date count : Expr) (unit : String) : Expr :=
  let (name, factor) := stepOfUnit unit
  let plain := if factor == 1 then count
    else .of (.binary .multiply) [shielded count, numberOf (toString factor)]
  let steps := match count with
    | .node (.number s) _ _ | .node (.string s) _ _ =>
      match s.toInt? with
      | some n => numberOf (toString (n * factor))
      | none => plain
    | _ => plain
  phrase (name ++ "($1, $2)") [date, steps]

/-- A date that is moved by some units. Units other than days give a moment, of which the day is
kept. -/
def movedDay (d : Dialect) (date count : Expr) (unit? : Option String) : Expr :=
  match unit? with
  | none => phrase "DATE_ADD($1, $2)" [date, count]
  | some unit =>
    if d == .hive then movedBySteps date count unit
    else if unit == "DAY" then phrase "DATE_ADD($1, $2)" [date, count]
    else phrase ("CAST(DATE_ADD(" ++ Phrase.literal unit ++ ", $2, $1) AS DATE)") [date, count]

def movedDate? (d : Dialect) (u : String) (args : List Expr) : Option Expr :=
  match u, args with
  | "DATE_ADD", a :: n :: r =>
    if !r.isEmpty && d != .hive then unitFirst? d u args
    else if d == .databricks then some (phrase "DATEADD(DAY, $2, $1)" [a, n])
    else some (movedDay d a n (some "DAY"))
  | "DATE_SUB", a :: n :: _ => some (movedDay d a (negatedCount n) (some "DAY"))
  | "TS_OR_DS_ADD", a :: n :: r => some (movedDay d a n (r.head?.bind unit?))
  | "DATEADD", [a, n] =>
    if d == .databricks then some (phrase "DATEADD(DAY, $2, $1)" [a, n])
    else if d == .spark then some (movedDay d a n (some "DAY")) else none
  | "TIMESTAMPADD", [a, n] => if d == .hive then none else some (movedDay d a n (some "DAY"))
  | "DATEADD", [_, _, _] | "TIMESTAMPADD", [_, _, _] =>
    if d == .hive then none else unitFirst? d u args
  | "TS_OR_DS_DIFF", a :: b :: r => some (phrase (elapsedText (unitOrDay r) "$1" "$2") [a, b])
  | "DATEDIFF", a :: b :: _ => if d == .hive then some (callOf "DATEDIFF" [a, b]) else none
  | _, _ => none
where
  /-- The unit stands in front of the count and the date. -/
  unitFirst? (d : Dialect) (u : String) : List Expr → Option Expr
    | [p, n, a] =>
      let name := if d == .databricks && u != "TIMESTAMPADD" then "DATEADD" else "DATE_ADD"
      some (phrase (name ++ "($3, $2, $1)") [a, n, unitArgument p])
    | _ => none

/-- Functions that spark and databricks read in their own way and hive does not. -/
def sparkMeaning? (d : Dialect) (u : String) (args : List Expr) : Option Expr :=
  match u, args with
  | "TO_TIMESTAMP", [a] => some (castOf "TIMESTAMP" a)
  | "TO_TIMESTAMP", [_, _] => some (formatSecond d u args)
  | "TO_UNIX_TIMESTAMP", [a, .node (.string "yyyy-MM-dd HH:mm:ss") _ _] =>
    some (callOf "STR_TO_UNIX" [a])
  | "TIMESTAMP_ADD", [a, n] => some (phrase "DATE_ADD($1, $2)" [a, n])
  | "TIMESTAMP_ADD", [a, n, p] => some (phrase "DATE_ADD($3, $2, $1)" [a, n, unitArgument p])
  | "TIMESTAMP_DIFF", a :: b :: r | "DATETIME_DIFF", a :: b :: r =>
    some (phrase ("TIMESTAMPDIFF(" ++ Phrase.literal (unitOrDay r) ++ ", $2, $1)") [a, b])
  | "DATETIME_ADD", a :: n :: r =>
    some (if d == .databricks then movedByUnit "TIMESTAMPADD" (unitOrDay r) a n
      else plainSpan "+" a n (unitOrDay r))
  | "DATETIME_SUB", a :: n :: r =>
    some (if d == .databricks then movedByUnit "TIMESTAMPADD" (unitOrDay r) a (negatedCount n)
      else plainSpan "-" a n (unitOrDay r))
  | "DATETIME_TRUNC", a :: p :: _ =>
    if d == .databricks then some (phrase "DATE_TRUNC($2, $1)" [a, unitString p]) else none
  | "NOW", [] | "GETDATE", [] =>
    if d == .databricks then some (.of (.moment "CURRENT_TIMESTAMP")) else none
  | "TIMESTAMPDIFF", [p, a, b] => some (phrase "TIMESTAMPDIFF($3, $2, $1)" [b, a, unitArgument p])
  | "FROM_UTC_TIMESTAMP", [a, z] | "TO_UTC_TIMESTAMP", [a, z] =>
    some (phrase (u ++ "($1, $2)") [castOf "TIMESTAMP" a, z])
  | "LTRIM", [c, a] => some (.of (.trim (some "LEADING") true) [a, c])
  | "RTRIM", [c, a] => some (.of (.trim (some "TRAILING") true) [a, c])
  | "SHIFTLEFT", [a, b] => some (.of (.binary .shiftLeft) [a, b])
  | "SHIFTRIGHT", [a, b] => some (.of (.binary .shiftRight) [a, b])
  | "RLIKE", [a, b] => some (.of (.binary .matching) [a, b])
  | "DATE_TRUNC", p :: a :: _ => some (phrase "DATE_TRUNC($2, $1)" [a, unitString p])
  | _, [a] => (castNames.lookup u).map fun t => castOf t a
  | _, _ => none

def takesFormatAnyhow (u format : String) : Bool :=
  format == "yyyy-MM-dd HH:mm:ss" || (u == "TO_DATE" && format == "yyyy-MM-dd")

def hiveMeaning? (d : Dialect) (u : String) (args : List Expr) : Option Expr :=
  (if d == .hive then none else sparkMeaning? d u args) <|> movedDate? d u args <|>
  match u, args with
  | "FIRST", [a, rule] | "FIRST_VALUE", [a, rule] | "LAST", [a, rule] | "LAST_VALUE", [a, rule]
  | "ANY_VALUE", [a, rule] =>
    match rule.form with
    | .boolean true => some (.of (.nullsRule "IGNORE NULLS") [callOf u [a]])
    | _ => some (callOf u [a])
  | "FROM_UNIXTIME", [a, .node (.string f) _ _] | "UNIX_TIMESTAMP", [a, .node (.string f) _ _]
  | "TO_DATE", [a, .node (.string f) _ _] =>
    if takesFormatAnyhow u f then some (phrase (u ++ "($1)") [a]) else some (formatSecond d u args)
  | "DATE_FORMAT", [_, _] | "FROM_UNIXTIME", [_, _] | "UNIX_TIMESTAMP", [_, _]
  | "TO_DATE", [_, _] => some (formatSecond d u args)
  | "CURRENT_DATE", [a] => some (phrase "CURRENT_DATE AT TIME ZONE $1" [a])
  | "REGEXP_REPLACE", a :: b :: c :: _ =>
    if d == .hive then some (callOf u [a, b, c]) else none
  | "TRUNC", [a, p] => some (phrase "TRUNC($1, $2)" [a, freeUnitString p])
  | "UNIX_TIMESTAMP", [] => some (phrase "UNIX_TIMESTAMP(CURRENT_TIMESTAMP())" [])
  | "SPLIT", [a, b] => some (phrase "SPLIT($1, $2)" [a, b])
  | "MAP", _ => if args.length % 2 == 0 then some (pairedMap "MAP" args) else none
  | "SEQUENCE", a :: b :: r | "GENERATE_SERIES", a :: b :: r => some (sequenceOf a b r)
  | "GENERATE_DATE_ARRAY", a :: b :: r => some (dailySequence a b r)
  | "STR_TO_MAP", [a] => some (phrase "STR_TO_MAP($1, ',', ':')" [a])
  | "STR_TO_MAP", [a, b] => some (phrase "STR_TO_MAP($1, $2, ':')" [a, b])
  | "GET_JSON_OBJECT", [a, b] => some (extracted d true a b [])
  | _, _ => none

end Function

end QueryFlow.Sql
