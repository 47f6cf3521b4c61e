import QueryFlow.Sql.Dialect
import QueryFlow.Text.Blank
import QueryFlow.Text.Letter

/-!
Names in SQL: the text of an identifier, and whether it stands in quotes.
-/

namespace QueryFlow.Sql

structure Name where
  text : String
  quoted : Bool := false
  /-- The signs in front of the name of a table that lasts for a session only. -/
  marks : String := ""
  deriving Repr, DecidableEq, Inhabited

namespace Name

/-- A name without quotes. -/
def bare (text : String) : Name := { text := text }

def inQuotes (text : String) : Name := { text := text, quoted := true }

/-- The text can be written as an identifier without quotes. -/
def isPlainText (s : String) : Bool :=
  match s.toList with
  | [] => false
  | c :: r => (c == '_' || c.isAlpha) && r.all fun x => x == '_' || Text.isLetterOrNumber x

/-- The text as an identifier, quoted when that is needed. -/
def ofText (s : String) : Name := { text := s, quoted := !isPlainText s }

/-- Words that a dialect takes for an identifier only in quotes. -/
def reserved : Dialect → List String
  | .presto | .trino =>
    ["alter", "and", "as", "between", "by", "case", "cast", "constraint", "create", "cross",
     "current_time", "current_timestamp", "deallocate", "delete", "describe", "distinct", "drop",
     "else", "end", "escape", "except", "execute", "exists", "extract", "false", "for", "from",
     "full", "group", "having", "in", "inner", "insert", "intersect", "into", "is", "join", "left",
     "like", "natural", "not", "null", "on", "or", "order", "outer", "prepare", "right", "select",
     "skip", "table", "then", "true", "union", "using", "values", "when", "where", "with"]
  | .bigquery =>
    ["all", "and", "any", "array", "as", "asc", "assert_rows_modified", "at", "between", "by",
     "case", "cast", "collate", "contains", "create", "cross", "cube", "current", "default",
     "define", "desc", "distinct", "else", "end", "enum", "escape", "except", "exclude", "exists",
     "extract", "false", "fetch", "following", "for", "from", "full", "group", "grouping", "groups",
     "hash", "having", "if", "ignore", "in", "inner", "intersect", "interval", "into", "is", "join",
     "lateral", "left", "like", "limit", "lookup", "merge", "natural", "new", "no", "not", "null",
     "nulls", "of", "on", "or", "order", "outer", "over", "partition", "preceding", "proto",
     "qualify", "range", "recursive", "respect", "right", "rollup", "rows", "select", "set", "some",
     "struct", "tablesample", "then", "to", "treat", "true", "unbounded", "union", "unnest",
     "using", "when", "where", "window", "with", "within"]
  | _ => []

/-- The name as it is written in a dialect, without its marks. -/
def renderText (d : Dialect) (n : Name) : String :=
  let (opening, closing) := d.identifierQuotes
  let body := n.text.toList.flatMap fun c => if c == closing then [c, c] else [c]
  let digit := !d.digitWords && (n.text.toList.head?.map Text.isDigit).getD false
  let small := String.ofList (n.text.toList.map Char.toLower)
  if n.quoted || digit || (reserved d).contains small then
    String.ofList (opening :: body ++ [closing])
  else String.ofList body

def render (d : Dialect) (n : Name) : String := n.marks ++ renderText d n

def renderPath (d : Dialect) (path : List Name) : String := ".".intercalate (path.map (render d))

end Name

end QueryFlow.Sql
