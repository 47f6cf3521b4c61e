import QueryFlow.Sql.Function.Parts

/-!
Functions as tsql reads them.
-/

namespace QueryFlow.Sql

namespace Function

/-- A value as a text, unless it is one. -/
def asText (e : Expr) : Expr :=
  match e.form with
  | .string _ => e
  | _ => castOf "TEXT" e

def asMoment (e : Expr) : Expr := .of (.cast (.simple "DATETIME2" []) false) [e]

/-- Short words for the units by which dates are moved, in small letters. -/
def spanWords : List (String × String) :=
  [("yyyy", "YEAR"), ("yy", "YEAR"), ("qq", "QUARTER"), ("q", "QUARTER"), ("mm", "MONTH"),
   ("m", "MONTH"), ("ww", "WEEK"), ("wk", "WEEK"), ("dd", "DAY"), ("d", "DAY")]

/-- A unit of time by which dates are moved. -/
def spanArgument (e : Expr) : Expr :=
  match spanWords.lookup (Text.lower e.nameText) with
  | some u => .of (.words u)
  | none => unitArgument e

/-- The year, the month and the day that lie so many days behind the first of March of the year
zero. Years are counted from March on, so that the day that is left out of most years comes last. -/
def dayOfCalendar (days : Int) : Int × Int × Int :=
  let era := days.fdiv 146097
  let inEra := days.fmod 146097
  let year := (inEra - inEra / 1460 + inEra / 36524 - inEra / 146096) / 365
  let inYear := inEra - (365 * year + year / 4 - year / 100)
  let month := (5 * inYear + 2) / 153
  let day := inYear - (153 * month + 2) / 5 + 1
  let month := if month < 10 then month + 3 else month - 9
  (year + era * 400 + (if month <= 2 then 1 else 0), month, day)

def padNumber (width : Nat) (n : Int) : String :=
  let s := toString n
  String.ofList (List.replicate (width - s.length) '0') ++ s

/-- The date so many days behind the first one of the year 1900. -/
def dateOfNumber (days : Int) : String :=
  let (year, month, day) := dayOfCalendar (days + 693901)
  padNumber 4 year ++ "-" ++ padNumber 2 month ++ "-" ++ padNumber 2 day

/-- The start of a distance; a whole number counts days. -/
def startMoment (e : Expr) : Expr :=
  match e with
  | .node (.number s) _ _ =>
    match s.toInt? with
    | some n => asMoment (stringOf (dateOfNumber n))
    | none => e
  | .node (.unary .negative) _ [.node (.number s) _ _] =>
    match s.toInt? with
    | some n => asMoment (stringOf (dateOfNumber (-n)))
    | none => e
  | _ => asMoment e

/-- Formats for the parts of a date that are taken out by a format. -/
def partFormats : List (String × String) :=
  [("year", "yyyy"), ("yyyy", "yyyy"), ("yy", "yy"), ("y", "yyyy"), ("month", "MM"), ("mm", "mm"),
   ("m", "m"), ("day", "dd"), ("dd", "dd"), ("dy", "dd"), ("d", "d"), ("hh", "hh"),
   ("minute", "mm"), ("mi", "mm"), ("n", "mm"), ("second", "ss"), ("ss", "ss"), ("s", "s"),
   ("millisecond", "ffffff"), ("ms", "ffffff")]

/-- Parts of a date that no format takes out. -/
def partNames : List (String × String) :=
  [("week", "WK"), ("ww", "WK"), ("wk", "WK"), ("weekday", "DW"), ("dw", "DW"), ("hour", "HOUR"),
   ("quarter", "QUARTER")]

/-- A part of a date, by its name where it has one. -/
def namedPart? (part date : Expr) : Option Expr :=
  let word := Text.lower part.nameText
  let names := [("weekday", "dddd"), ("dw", "dddd"), ("w", "dddd"), ("month", "MMMM"),
    ("mm", "MMMM"), ("m", "MMMM")]
  match names.lookup word <|> partFormats.lookup word with
  | some format => some (phrase ("FORMAT($1, '" ++ format ++ "')") [asMoment date])
  | none => (partNames.lookup word).map fun name =>
    phrase ("DATEPART(" ++ name ++ ", $1)") [asMoment date]

/-- A part of a document by its path, which may be a document or a plain value. -/
def documentPart (a path : Expr) : Expr :=
  phrase "ISNULL(JSON_QUERY($1, $2), JSON_VALUE($1, $2))" [a, pathArgument .tsql path]

/-- The text of a value in a format. A format with no letter for a part of a date is one for
numbers. -/
def formatted (value format : Expr) (more : List Expr) : Expr :=
  let name := format.nameText
  let isForNumbers :=
    name == "N" || name == "C" || !(name.toList.any fun c => "dDmMyYhHsS".toList.contains c)
  let shown := if isForNumbers then format
    else .node (.string (TimeFormat.normalizeTsql name)) format.notes []
  phrase "FORMAT(@1)" (value :: shown :: more.take 1)

/-- A name that has up to four parts, parted by points, counts them from its end. -/
def nameParts? (text : Expr) : Option Nat :=
  match text.form with
  | .string s | .number s =>
    let count := (s.splitOn ".").length
    if count ≤ 4 then some count else none
  | _ => none

/-- A part of a text, of which there are only those of a name with points. -/
def partOfName (text separator place : Expr) : Expr :=
  match separator.form, place.form, nameParts? text with
  | .string ".", .number n, some count =>
    match n.toInt? with
    | some n => phrase ("PARSENAME($1, " ++ toString ((count : Int) + 1 - n) ++ ")") [text]
    | none => phrase "" [text, separator, place]
  | _, _, _ => phrase "" [text, separator, place]

def tsqlMeaning? (u : String) (args : List Expr) : Option Expr :=
  match u, args with
  | "ISNULL", [_, _] => some (.of (.call "COALESCE" "ISNULL" true) args)
  | "DATEDIFF", [a, b] =>
    -- the first argument is the unit, which is no value
    some (.of .unwritable [.of (.name (.bare (a.nameText))), b])
  | "DATEDIFF", [p, a, b] =>
    some (phrase "DATEDIFF($3, $2, $1)" [asMoment b, startMoment a, spanArgument p])
  | "DATEDIFF_BIG", [p, a, b] =>
    some (phrase "DATEDIFF_BIG($3, $2, $1)" [asMoment b, startMoment a, spanArgument p])
  | "DATEADD", [p, n, a] => some (phrase "DATEADD($3, $2, $1)" [a, n, spanArgument p])
  | "DATEADD", [a, n] => some (phrase "DATEADD(DAY, $2, $1)" [a, n])
  | "DATENAME", [p, a] => namedPart? p a
  | "FORMAT", a :: f :: r => some (formatted a f r)
  | "TIME_TO_STR", [a, .node (.string f) n xs] =>
    some (phrase "FORMAT($1, $2)" [a, .node (.string (TimeFormat.inTsql f)) n xs])
  | "SPLIT_PART", [a, sep, n] => some (partOfName a sep n)
  | "SUSER_NAME", [] | "SUSER_SNAME", [] | "SYSTEM_USER", [] => some (.of (.moment "CURRENT_USER"))
  | "HASHBYTES", [.node (.string s) _ _, a] =>
    match Text.upper s with
    | "MD5" => some (callOf "MD5" [a])
    | "SHA" | "SHA1" => some (callOf "SHA" [a])
    | "SHA2_256" | "SHA2_512" => some (phrase ("HASHBYTES('" ++ Text.upper s ++ "', $1)") [a])
    | _ => none
  | "JSON_VALUE", a :: path :: _ | "JSON_QUERY", a :: path :: _ => some (documentPart a path)
  | "JSON_QUERY", [a] => some (documentPart a (stringOf "$"))
  | "EOMONTH", [a] => some (phrase "EOMONTH($1)" [castOf "DATE" a])
  | "EOMONTH", [a, n] => some (phrase "EOMONTH(DATEADD(MONTH, $2, $1))" [castOf "DATE" a, n])
  | "GETDATE", [] | "SYSDATETIME", [] => some (.of (.moment "CURRENT_TIMESTAMP"))
  | "LEN", [a] => some (phrase "LEN($1)" [asText a])
  | "LEFT", [a, n] => some (phrase "LEFT($1, $2)" [asText a, n])
  | "RIGHT", [a, n] => some (phrase "RIGHT($1, $2)" [asText a, n])
  | "SQUARE", [a] => some (.of (.binary .power) [a, numberOf "2"])
  | "DATE_TRUNC", [p, a] => some (phrase "DATETRUNC($2, $1)" [a, unitArgument p])
  | "DATETRUNC", [p, a] => some (phrase "DATETRUNC($2, $1)" [a, unitArgument p])
  | "TIMESTAMP_TRUNC", a :: p :: _ => some (phrase "DATETRUNC($2, $1)" [a, unitArgument p])
  | _, _ => none

end Function

end QueryFlow.Sql
