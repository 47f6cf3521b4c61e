import QueryFlow.Sql.Dialect
import QueryFlow.Text.Case

/-!
Words for the parts of a date: each part has one full word and several short ones.
-/

namespace QueryFlow.Sql.DatePart

abbrev Words := String × List String

/-- The parts of a day and what is counted since a fixed moment. -/
def clockWords : List Words :=
  [("HOUR", ["H", "HH", "HR", "HOURS", "HRS"]),
   ("MINUTE", ["M", "MI", "MIN", "MINUTES", "MINS"]),
   ("SECOND", ["S", "SEC", "SECONDS", "SECS"]),
   ("MILLISECOND", ["MS", "MSEC", "MSECS", "MSECOND", "MSECONDS", "MILLISEC", "MILLISECS",
     "MILLISECON", "MILLISECONDS"]),
   ("MICROSECOND", ["US", "USEC", "USECS", "MICROSEC", "MICROSECS", "USECOND", "USECONDS",
     "MICROSECONDS"]),
   ("NANOSECOND", ["NS", "NSEC", "NANOSEC", "NSECOND", "NSECONDS", "NANOSECS"]),
   ("EPOCH_MILLISECOND", ["EPOCH_MILLISECONDS"]), ("EPOCH_MICROSECOND", ["EPOCH_MICROSECONDS"]),
   ("EPOCH_NANOSECOND", ["EPOCH_NANOSECONDS"]), ("TIMEZONE_HOUR", ["TZH"]),
   ("TIMEZONE_MINUTE", ["TZM"])]

def calendarWords : List Words :=
  [("YEAR", ["Y", "YY", "YYY", "YYYY", "YR", "YEARS", "YRS"]),
   ("MONTH", ["MM", "MON", "MONS", "MONTHS"]), ("DAY", ["D", "DD", "DAYS", "DAYOFMONTH"]),
   ("DAYOFWEEK", ["DAY OF WEEK", "WEEKDAY", "DOW", "DW"]),
   ("DAYOFWEEKISO", ["WEEKDAY_ISO", "DOW_ISO", "DW_ISO", "DAYOFWEEK_ISO"]),
   ("DAYOFYEAR", ["DAY OF YEAR", "DOY", "DY"]),
   ("WEEK", ["W", "WK", "WEEKOFYEAR", "WOY", "WY"]),
   ("WEEKISO", ["WEEK_ISO", "WEEKOFYEARISO", "WEEKOFYEAR_ISO"]),
   ("QUARTER", ["Q", "QTR", "QTRS", "QUARTERS"]), ("DECADE", ["DEC", "DECS", "DECADES"]),
   ("CENTURY", ["C", "CENT", "CENTS", "CENTURIES"]), ("MILLENNIUM", ["MIL", "MILS", "MILLENIA"])]

/-- All words for parts of a date, full ones and short ones. -/
def knownWords : List String :=
  ["EPOCH", "EPOCH_SECOND", "EPOCH_SECONDS"]
    ++ ((calendarWords ++ clockWords).flatMap fun p => p.1 :: p.2).filter fun w => !w.contains ' '

/-- What a dialect understands by a word, where it differs. -/
def ownWords : Dialect → List (String × String)
  | .duckdb => [("WEEKDAY", "WEEKDAY"), ("DAYOFWEEKISO", "ISODOW"), ("EPOCH_SECOND", "EPOCH"),
      ("EPOCH_SECONDS", "EPOCH")]
  | .snowflake => [("ISOWEEK", "WEEKISO"), ("EPOCH_SECOND", "EPOCH_SECOND"),
      ("EPOCH_SECONDS", "EPOCH_SECOND")]
  | .tsql => [("QQ", "QUARTER"), ("M", "MONTH"), ("Y", "DAYOFYEAR"), ("WW", "WEEK"),
      ("N", "MINUTE"), ("SS", "SECOND"), ("MCS", "MICROSECOND"), ("TZ", "TIMEZONE_MINUTE"),
      ("TZOFFSET", "TIMEZONE_MINUTE"), ("ISO_WEEK", "WEEKISO"), ("ISOWK", "WEEKISO"),
      ("ISOWW", "WEEKISO"), ("EPOCH_SECOND", "EPOCH"), ("EPOCH_SECONDS", "EPOCH")]
  | _ => [("EPOCH_SECOND", "EPOCH"), ("EPOCH_SECONDS", "EPOCH")]

/-- The full word for a part of a date; none when the word is no short one. -/
def full? (d : Dialect) (word : String) : Option String :=
  let u := Text.upper word
  (ownWords d).lookup u <|>
    ((calendarWords ++ clockWords).find? fun p => p.2.contains u).map (·.1)

/-- The full word for a part of a date; other words stay as they are. -/
def full (d : Dialect) (word : String) : String := (full? d word).getD word

end QueryFlow.Sql.DatePart
