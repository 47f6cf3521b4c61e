import QueryFlow.Sql.Dialect

/-!
Formats for dates and times. A dialect has words for the parts of a date, such as `YYYY`; each word
has a standard form, and a format is written back with the word that the dialect prefers for it.
-/

namespace QueryFlow.Sql.TimeFormat

abbrev Vocabulary := List (List Char × List Char)

/-- A text is the start of a word, and perhaps a whole word. -/
def startsWord (v : Vocabulary) (cs : List Char) : Bool := v.any fun (w, _) => cs.isPrefixOf w

/-- The meaning of a text; a text without one means itself. -/
def meaning (v : Vocabulary) (cs : List Char) : List Char := (v.lookup cs).getD cs

/-- One reading position: the text since the last piece, the part of it that may still become a
word, the piece found in it so far, and what follows. -/
structure Reading where
  pending : List Char := []
  path : List Char := []
  found : Option (List Char) := none
  rest : List Char

/-- Cut a format into words and single characters; `fuel` bounds the number of steps. When a word is
left because a longer one does not come about, the characters behind it are looked at only from the
last one on. A text that stops in the middle of a word is one piece. -/
def pieces (v : Vocabulary) : Nat → Reading → List (List Char)
  | 0, r => [r.pending]
  | fuel + 1, r =>
    match r.rest with
    | [] => if r.pending.isEmpty then [] else [r.pending]
    | c :: rest =>
      let path := r.path ++ [c]
      let seen := r.pending ++ [c]
      if startsWord v path then
        let found := if (v.lookup path).isSome then some seen else r.found
        pieces v fuel ⟨seen, path, found, rest⟩
      else match r.found with
        | some w => w :: pieces v fuel ⟨r.pending.drop w.length, [], none, c :: rest⟩
        | none => seen.take 1 :: pieces v fuel ⟨[], [], none, seen.drop 1 ++ rest⟩

/-- A format with every word in place of its meaning. -/
def translate (v : Vocabulary) (s : String) : String :=
  let cs := s.toList
  String.ofList
    ((pieces v ((cs.length + 1) * (cs.length + 2)) ⟨[], [], none, cs⟩).flatMap (meaning v))

/-- Words of postgres with their standard forms; the last word of a form is the preferred one. -/
def postgresWords : List (String × String) :=
  [("d", "%u"), ("D", "%u"), ("dd", "%d"), ("DD", "%d"), ("ddd", "%j"), ("DDD", "%j"),
   ("FMDD", "%-d"), ("FMDDD", "%-j"), ("FMHH12", "%-I"), ("FMHH24", "%-H"), ("FMMI", "%-M"),
   ("FMMM", "%-m"), ("FMSS", "%-S"), ("HH12", "%I"), ("HH24", "%H"), ("iw", "%V"), ("IW", "%V"),
   ("iyyy", "%G"), ("IYYY", "%G"), ("mi", "%M"), ("MI", "%M"), ("mm", "%m"), ("MM", "%m"),
   ("OF", "%z"), ("ss", "%S"), ("SS", "%S"), ("TMDay", "%A"), ("TMDy", "%a"), ("TMMon", "%b"),
   ("TMMonth", "%B"), ("TZ", "%Z"), ("US", "%f"), ("ww", "%U"), ("WW", "%U"), ("yy", "%y"),
   ("YY", "%y"), ("yyyy", "%Y"), ("YYYY", "%Y")]

def oracleWords : List (String × String) :=
  [("D", "%u"), ("DAY", "%A"), ("DD", "%d"), ("DDD", "%j"), ("DY", "%a"), ("HH", "%I"),
   ("HH12", "%I"), ("HH24", "%H"), ("IW", "%V"), ("MI", "%M"), ("MM", "%m"), ("MON", "%b"),
   ("MONTH", "%B"), ("SS", "%S"), ("WW", "%W"), ("YY", "%y"), ("YYYY", "%Y"), ("FF6", "%f")]

def snowflakeWords : List (String × String) :=
  [("YYYY", "%Y"), ("yyyy", "%Y"), ("YY", "%y"), ("yy", "%y"), ("MMMM", "%B"), ("mmmm", "%B"),
   ("MON", "%b"), ("mon", "%b"), ("MM", "%m"), ("mm", "%m"), ("DD", "%d"), ("dd", "%-d"),
   ("DY", "%a"), ("dy", "%w"), ("HH24", "%H"), ("hh24", "%H"), ("HH12", "%I"), ("hh12", "%I"),
   ("MI", "%M"), ("mi", "%M"), ("SS", "%S"), ("ss", "%S"), ("FF6", "%f"), ("ff6", "%f")]

def mysqlWords : List (String × String) :=
  [("%M", "%B"), ("%c", "%-m"), ("%e", "%-d"), ("%h", "%I"), ("%i", "%M"), ("%s", "%S"),
   ("%u", "%W"), ("%k", "%-H"), ("%l", "%-I"), ("%T", "%H:%M:%S"), ("%W", "%A")]

def hiveWords : List (String × String) :=
  [("y", "%Y"), ("Y", "%Y"), ("YYYY", "%Y"), ("yyyy", "%Y"), ("YY", "%y"), ("yy", "%y"),
   ("MMMM", "%B"), ("MMM", "%b"), ("MM", "%m"), ("M", "%-m"), ("dd", "%d"), ("d", "%-d"),
   ("HH", "%H"), ("H", "%-H"), ("hh", "%I"), ("h", "%-I"), ("mm", "%M"), ("m", "%-M"),
   ("ss", "%S"), ("s", "%-S"), ("SSSSSS", "%f"), ("a", "%p"), ("DD", "%j"), ("D", "%-j"),
   ("E", "%a"), ("EE", "%a"), ("EEE", "%a"), ("EEEE", "%A"), ("z", "%Z"), ("Z", "%z")]

def bigqueryWords : List (String × String) :=
  [("%x", "%m/%d/%y"), ("%D", "%m/%d/%y"), ("%E6S", "%S.%f"), ("%e", "%-d"), ("%F", "%Y-%m-%d"),
   ("%T", "%H:%M:%S"), ("%c", "%a %b %e %H:%M:%S %Y")]

def warehouseWords : List (String × String) :=
  [("YY", "%y"), ("Y4", "%Y"), ("YYYY", "%Y"), ("M4", "%B"), ("M3", "%b"), ("M", "%-M"),
   ("MI", "%M"), ("MM", "%m"), ("MMM", "%b"), ("MMMM", "%B"), ("D", "%-d"), ("DD", "%d"),
   ("D3", "%j"), ("DDD", "%j"), ("H", "%-H"), ("HH", "%H"), ("HH24", "%H"), ("S", "%-S"),
   ("SS", "%S"), ("SSSSSS", "%f"), ("E", "%a"), ("EE", "%a"), ("E3", "%a"), ("E4", "%A"),
   ("EEE", "%a"), ("EEEE", "%A")]

def tsqlWords : List (String × String) :=
  [("year", "%Y"), ("dayofyear", "%j"), ("day", "%d"), ("dy", "%d"), ("y", "%Y"), ("week", "%W"),
   ("ww", "%W"), ("wk", "%W"), ("isowk", "%V"), ("isoww", "%V"), ("iso_week", "%V"),
   ("hour", "%h"), ("hh", "%I"), ("minute", "%M"), ("mi", "%M"), ("n", "%M"), ("second", "%S"),
   ("ss", "%S"), ("s", "%-S"), ("millisecond", "%f"), ("ms", "%f"), ("weekday", "%w"),
   ("dw", "%w"), ("month", "%m"), ("mm", "%M"), ("m", "%-M"), ("Y", "%Y"), ("YYYY", "%Y"),
   ("YY", "%y"), ("MMMM", "%B"), ("MMM", "%b"), ("MM", "%m"), ("M", "%-m"), ("dddd", "%A"),
   ("dd", "%d"), ("d", "%-d"), ("HH", "%H"), ("H", "%-H"), ("h", "%-I"), ("ffffff", "%f"),
   ("yyyy", "%Y"), ("yy", "%y")]

/-- What a single letter stands for as a whole format of tsql, in standard form. -/
def tsqlLetters : List (String × String) :=
  [("y", "%B %Y"), ("d", "%m/%d/%Y"), ("H", "%-H"), ("h", "%-I"), ("s", "%Y-%m-%d %H:%M:%S"),
   ("D", "%A,%B,%Y"), ("m", "%B %-d"), ("M", "%B %-d")]

def castWords : List (String × String) :=
  [("DD", "%d"), ("MM", "%m"), ("MON", "%b"), ("MONTH", "%B"), ("YYYY", "%Y"), ("YY", "%y"),
   ("HH", "%I"), ("HH12", "%I"), ("HH24", "%H"), ("MI", "%M"), ("SS", "%S"), ("SSSSS", "%f"),
   ("TZH", "%z")]

def words? (d : Dialect) : Option (List (String × String)) :=
  match d with
  | .postgres | .redshift => some postgresWords
  | .oracle => some oracleWords
  | .snowflake => some snowflakeWords
  | .mysql | .starrocks | .presto | .trino => some mysqlWords
  | .hive | .spark | .databricks => some hiveWords
  | .bigquery => some bigqueryWords
  | .ansi | .clickhouse | .duckdb | .sqlite | .tsql => none

def reading (ws : List (String × String)) : Vocabulary :=
  ws.map fun (w, f) => (w.toList, f.toList)

def writing (ws : List (String × String)) : Vocabulary :=
  ws.reverse.map fun (w, f) => (f.toList, w.toList)

/-- A format in standard form as a dialect writes it. A format of no characters is read as the word
`None`. -/
def written (d : Dialect) (s : String) : String :=
  match words? d with
  | some ws => if s.isEmpty then "None" else translate (writing ws) s
  | none => s

def normalize (d : Dialect) (s : String) : String :=
  match words? d with
  | some ws => if s.isEmpty then "None" else translate (writing ws) (translate (reading ws) s)
  | none => s

def ofWarehouse (d : Dialect) (s : String) : String :=
  written d (translate (reading warehouseWords) s)

def inTsql (s : String) : String := if s.isEmpty then "None" else translate (writing tsqlWords) s

/-- A format of tsql, as it prefers its words. A single letter may be short for a whole format. -/
def normalizeTsql (s : String) : String :=
  inTsql (match tsqlLetters.lookup s with
    | some f => f
    | none => if s.length == 1 then s else translate (reading tsqlWords) s)

/-- A format in a cast as a function with the same meaning takes it. -/
def normalizeCast (d : Dialect) (s : String) : String :=
  if d == .bigquery && !s.isEmpty then written d (translate (reading castWords) s)
  else normalize d s

def preferredCast (s : String) : String :=
  if s.isEmpty then "None" else translate (writing castWords) (translate (reading castWords) s)

end QueryFlow.Sql.TimeFormat
