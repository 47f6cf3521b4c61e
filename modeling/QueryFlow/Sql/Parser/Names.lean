import QueryFlow.Sql.Parser.Cursor

/-!
Reading names: which words may stand as an identifier, as an alias and as the name of a FROM item.
-/

namespace QueryFlow.Sql.Parse

open QueryFlow.Sql

/-- Words that are never an identifier without quotes. -/
def reservedWords : List String :=
  ["ALTER", "AND", "AS", "BETWEEN", "CREATE", "CROSS", "DISTINCT", "DROP", "ELSE", "EXCEPT",
   "FETCH", "FOR", "FROM", "GLOB", "GRANT", "HAVING", "ILIKE", "INNER", "INSERT",
   "INTERSECT", "INTO", "JOIN", "LATERAL", "LIKE", "NOT", "NOTNULL", "ON", "OR", "OUTER",
   "QUALIFY", "REGEXP", "RETURNING", "REVOKE", "RLIKE", "ROLLBACK", "SELECT",
   "TABLESAMPLE", "THEN", "UNCACHE", "UNION", "USING", "VALUES", "WHEN", "WHERE", "WITH", "XOR",
   "GROUP BY", "ORDER BY", "PARTITION BY", "PARTITIONED BY", "CLUSTER BY", "DISTRIBUTE BY",
   "SORT BY", "CONNECT BY", "START WITH", "PRIMARY KEY", "FOREIGN KEY", "SIMILAR TO",
   "GROUPING SETS", "CHARACTER SET", "FOR SYSTEM_TIME", "FOR VERSION", "FOR TIMESTAMP"]

/-- Words with a meaning of their own, which are therefore no name of a type. -/
def keywords : List String :=
  reservedWords ++
  ["ALL", "ANALYZE", "ANTI", "ANY", "ASC", "ASOF", "AUTOINCREMENT", "AUTO_INCREMENT", "BEGIN",
   "CACHE", "CALL", "CASE", "COLLATE", "COLUMN", "COMMENT", "COMMIT", "CONSTRAINT", "COPY", "CUBE",
   "CURRENT_CATALOG", "CURRENT_DATE", "CURRENT_SCHEMA", "CURRENT_TIME", "CURRENT_TIMESTAMP",
   "CURRENT_USER", "DATABASE", "DEFAULT", "DELETE", "DESC", "DESCRIBE", "DIV", "END", "ESCAPE",
   "EXECUTE", "EXISTS", "EXPLAIN", "FALSE", "FILTER", "FIRST", "FORMAT", "FULL", "FUNCTION", "IN",
   "INDEX", "IS",
   "ISNULL", "KEEP", "KILL", "LEFT", "LIMIT", "LOAD", "LOCALTIME", "LOCALTIMESTAMP", "LOCK",
   "MERGE", "NAMESPACE", "NATURAL", "NEXT", "NULL", "OFFSET", "OPTIMIZE", "ORDINALITY", "OUT",
   "OVER", "OVERLAPS", "OVERWRITE", "PARTITION", "PERCENT", "PIVOT", "PRAGMA", "PREPARE",
   "PROCEDURE", "RANGE", "RECURSIVE", "REFERENCES", "RENAME", "REPLACE", "RIGHT", "ROLLUP", "ROWS",
   "SCHEMA", "SEMI", "SESSION", "SESSION_USER", "SET", "SETTINGS", "SHOW", "SOME", "STRAIGHT_JOIN",
   "TABLE", "TEMP", "TEMPORARY", "TRIGGER", "TRUE", "TRUNCATE", "UNIQUE", "UNNEST", "UNPIVOT",
   "UPDATE", "USE", "VACUUM", "VIEW", "VOLATILE", "WINDOW"]

/-- Words that may be an identifier but not the name of a FROM item. -/
def joinWordsOf (d : Dialect) : List String :=
  ["ANTI", "ASOF", "FULL", "LEFT", "LOCK", "NATURAL", "RIGHT", "SEMI", "STRAIGHT_JOIN", "WINDOW",
   "LIMIT", "OFFSET"]
    ++ (match d with
        | .duckdb => ["POSITIONAL"]
        | .clickhouse => ["ANY", "ARRAY", "GLOBAL", "FINAL", "FORMAT", "SETTINGS", "PREWHERE"]
        | .mysql | .starrocks => ["FORCE", "IGNORE", "USE"]
        | _ => [])

/-- Words that only some dialects reserve. -/
def ownReserved : Dialect → List String
  | .tsql => ["TOP"]
  | .mysql | .starrocks => ["FORCE", "IGNORE", "KEY", "MOD", "SEPARATOR"]
  | .postgres | .redshift => ["ONLY"]
  | .clickhouse => ["PREWHERE"]
  | .duckdb => ["POSITIONAL"]
  | _ => []

/-- Words that have no meaning of their own in some dialects. -/
def ownFree : Dialect → List String
  | .presto | .trino => ["QUALIFY"]
  | .bigquery | .postgres | .redshift => ["DIV"]
  | _ => []

/-- Words with a meaning of their own that may name a function all the same. -/
def callableWords (d : Dialect) : List String :=
  ["ALL", "ANY", "CALL", "COLLATE", "CURRENT_CATALOG", "CURRENT_DATE", "CURRENT_SCHEMA",
   "CURRENT_TIME", "CURRENT_TIMESTAMP", "CURRENT_USER", "EXISTS", "EXPLAIN", "FILTER", "FIRST",
   "FORMAT", "GLOB", "ILIKE", "INDEX", "INSERT", "ISNULL", "LEFT", "LIKE", "LOCALTIME",
   "LOCALTIMESTAMP", "MERGE", "NEXT", "OFFSET", "OPTIMIZE", "PREPARE", "RANGE", "REPLACE", "RIGHT",
   "RLIKE", "SESSION_USER", "SOME", "TABLE", "TRUNCATE", "UNNEST", "VACUUM", "WINDOW", "XOR"]
    ++ (if d.likeMysql then ["DATABASE", "MOD", "SCHEMA", "SET", "VALUES"] else [])
    ++ if d == .clickhouse then ["AND", "OR"] else []

def isName (d : Dialect) (t : Token) : Bool :=
  match t.lexeme with
  | .word _ u =>
    (ownFree d).contains u || !reservedWords.contains u && !(ownReserved d).contains u
  | .quoted _ => true
  | _ => false

def isCallable (d : Dialect) (t : Token) : Bool :=
  match t.lexeme with
  | .word _ u =>
    (callableWords d).contains u || (ownFree d).contains u || (isName d t && !keywords.contains u)
  | .quoted _ => true
  | _ => false

def nameOf? (t : Token) : Option Name :=
  match t.lexeme with
  | .word s _ => some (.bare s)
  | .quoted s => some (.inQuotes s)
  | .string s => some (.inQuotes s)
  | .number s => some (.bare s)
  | .marked _ s => some (.bare s)
  | .symbol _ | .hint => none

/-- A place for a value, where a name is wanted. Its own name is that behind the mark; a place that
is only a mark has none. -/
def placeName? (d : Dialect) : Parse (Option Name) := do
  match ← rest with
  | ⟨.symbol "?", _⟩ :: _ =>
    skip 1
    return some (.bare "")
  | ⟨.symbol ":", _⟩ :: t :: _ =>
    let isNumber := match t.lexeme with
      | .number _ => true
      | _ => false
    if isName d t || isNumber then
      skip 2
      return (nameOf? t).map fun n => .bare (n.text)
    else return none
  | ⟨.symbol s, _⟩ :: t :: _ =>
    if (s == "@" || s == "$") && (nameOf? t).isSome then
      skip 2
      return (nameOf? t).map fun n => .bare (n.text)
    else return none
  | _ => return none

/-- The number signs in front of the name of a table that lasts for a session only. -/
def sessionMarks (d : Dialect) : Parse String := do
  if d != .tsql then return ""
  match ← rest with
  | a :: b :: r =>
    unless a.isSymbol "#" do return ""
    if isName d b then
      skip 1
      return "#"
    else if b.isSymbol "#" && (r.head?.map (isName d)).getD false then
      skip 2
      return "##"
    else return ""
  | _ => return ""

/-- A name; words in `refused` are none. -/
def nameExcept (d : Dialect) (refused : List String) : Parse (Option Name) := do
  let marks ← sessionMarks d
  match ← peek? with
  | some t =>
    if isName d t && !((t.word?.map refused.contains).getD false) then
      skip 1
      return (nameOf? t).map fun n => { n with marks := marks }
    else placeName? d
  | none => return none

def name? (d : Dialect) : Parse (Option Name) := nameExcept d []

/-- Any token but a symbol or `SELECT`, as a name. -/
def anyName? : Parse (Option Name) := do
  match ← peek? with
  | some t =>
    if t.isWord "SELECT" then return none
    match nameOf? t with
    | some n =>
      skip 1
      return some n
    | none => return none
  | none => return none

/-- Any token but a symbol or `SELECT`, or a place for a value, as a name. -/
def anyNameOrPlace? (d : Dialect) : Parse (Option Name) := do
  match ← anyName? with
  | some n => return some n
  | none => placeName? d

def stringName? : Parse (Option Name) := do
  match ← peek? with
  | some ⟨.string s, _⟩ =>
    skip 1
    return some (.inQuotes s)
  | _ => return none

def name (d : Dialect) : Parse Name := need "a name" (name? d)

def anyWord? : Parse (Option String) := do
  return (← anyName?).map fun n => Text.upper n.text

end QueryFlow.Sql.Parse
