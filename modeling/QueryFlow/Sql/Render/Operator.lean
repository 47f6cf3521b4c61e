import QueryFlow.Sql.DataType.Spelling
import QueryFlow.Sql.Expr

/-!
The text of operators, of comments and of literals with a mark.
-/

namespace QueryFlow.Sql

namespace Render

def commas (xs : List String) : String := ", ".intercalate xs

/-- One comment with a blank inside each of its marks. -/
def commentText (s : String) : String :=
  let cs := s.toList
  let front := match cs.head? with
    | some c => if Text.isBlank c then "" else " "
    | none => ""
  let back := match cs.getLast? with
    | some c => if Text.isBlank c then "" else " "
    | none => ""
  let closed := "* /".intercalate (s.splitOn "*/")
  "/*" ++ front ++ "/ *".intercalate (closed.splitOn "/*") ++ back ++ "*/"

/-- The comments of a node, each preceded by a blank. -/
def commentTail (notes : List String) : String :=
  String.join ((notes.filter (!·.isEmpty)).map fun n => " " ++ commentText n)

/-- A literal with a mark in front of it, as a dialect writes it. -/
def markedText (d : Dialect) (mark : LiteralMark) (s : String) : String :=
  let doubled := "''".intercalate (s.splitOn "'")
  match mark with
  | .national => (if d.likeHive then "" else "N") ++ Literal.quote d s
  | .hexadecimal =>
    match d with
    | .bigquery | .clickhouse | .tsql => "0x" ++ s
    | .spark | .databricks => "X'" ++ s ++ "'"
    | _ => "x'" ++ s ++ "'"
  | .bits => if d == .clickhouse then "0b" ++ s else "b'" ++ s ++ "'"
  | .bytes => (if d == .bigquery then "b" else "e") ++ "'" ++ doubled ++ "'"
  | .unicode => (if d == .oracle then "U" else "U&") ++ "'" ++ s ++ "'"
  | .raw => Literal.quote d s

/-- Dialects that compare texts without regard to letter case by an operator of their own. -/
def hasFoldedLike : Dialect → Bool
  | .ansi | .clickhouse | .databricks | .duckdb | .postgres | .redshift | .snowflake | .spark
  | .tsql => true
  | _ => false

def sign (d : Dialect) : BinaryOp → String
  | .or => "OR"
  | .and => "AND"
  | .xor => "XOR"
  | .equal => "="
  | .notEqual => "<>"
  | .sameAs => if d.likeMysql then "<=>" else if d == .sqlite then "IS" else "IS NOT DISTINCT FROM"
  | .differsFrom => if d == .sqlite then "IS NOT" else "IS DISTINCT FROM"
  | .less => "<"
  | .lessEqual => "<="
  | .greater => ">"
  | .greaterEqual => ">="
  | .bitAnd => "&"
  | .bitOr => "|"
  | .bitXor => if d.likePostgres then "#" else "^"
  | .shiftLeft => "<<"
  | .shiftRight => ">>"
  | .concatenate => if d == .tsql then "+" else "||"
  | .add => "+"
  | .subtract => "-"
  | .remainder => "%"
  | .collate => "COLLATE"
  | .multiply => "*"
  | .divide => "/"
  | .wholeDivide => if d == .duckdb then "//" else "DIV"
  | .distance => "<->"
  | .boxDistance => "<<->>"
  | .power => "^"
  | .like => "LIKE"
  | .notLike => "NOT LIKE"
  | .likeFolded => "ILIKE"
  | .notLikeFolded => "NOT ILIKE"
  | .similarTo => "SIMILAR TO"
  | .matching => if d.likePostgres then "~" else if d == .sqlite then "REGEXP" else "RLIKE"
  | .matchingFolded => "~*"
  | .glob => "GLOB"
  | .matches => "MATCH"
  | .escape => "ESCAPE"
  | .contains => "@>"
  | .containedIn => "<@"
  | .overlaps => "&&"
  | .adjacent => "-|-"
  | .periodOverlaps => "OVERLAPS"
  | .extendsLeft => "&>"
  | .extendsRight => "&<"
  | .is => "IS"
  | .jsonField => "->"
  | .jsonText => "->>"
  | .jsonPath => "#>"
  | .jsonPathText => "#>>"
  | .jsonHasKey => "?"
  | .jsonHasAnyKey => "?|"
  | .jsonHasAllKeys => "?&"
  | .jsonDelete => "#-"
  | .jsonHasPath => "@?"
  | .textSearch => "@@"
  | .startsWith => "^@"
  | .atTimeZone => "AT TIME ZONE"

def callText (name : String) (args : List String) : String := name ++ "(" ++ commas args ++ ")"

/-- The function that a dialect has in place of an operator on bits or lists. -/
def operatorFunction? (d : Dialect) (op : BinaryOp) : Option String :=
  match d with
  | .snowflake =>
    match op with
    | .bitAnd => some "BITAND"
    | .bitOr => some "BITOR"
    | .bitXor => some "BITXOR"
    | .shiftLeft => some "BITSHIFTLEFT"
    | .shiftRight => some "BITSHIFTRIGHT"
    | .overlaps => some "ARRAYS_OVERLAP"
    | _ => none
  | .presto | .trino =>
    match op with
    | .bitAnd => some "BITWISE_AND"
    | .bitOr => some "BITWISE_OR"
    | .bitXor => some "BITWISE_XOR"
    | .shiftLeft => some "BITWISE_ARITHMETIC_SHIFT_LEFT"
    | .shiftRight => some "BITWISE_ARITHMETIC_SHIFT_RIGHT"
    | _ => none
  | .databricks | .spark =>
    match op with
    | .shiftLeft => some "SHIFTLEFT"
    | .shiftRight => some "SHIFTRIGHT"
    | _ => none
  | .duckdb => if op == .bitXor then some "XOR" else none
  | _ => none

def complementText (d : Dialect) (x : String) : String :=
  match d with
  | .snowflake => callText "BITNOT" [x]
  | .presto | .trino => callText "BITWISE_NOT" [x]
  | _ => "~" ++ x

/-- The function by which a dialect tells whether a text matches a pattern; none where it has an
operator. -/
def matchFunction? : Dialect → Option String
  | .databricks | .hive | .postgres | .redshift | .spark | .sqlite => none
  | .bigquery => some "REGEXP_CONTAINS"
  | .clickhouse => some "match"
  | .duckdb => some "REGEXP_MATCHES"
  | .starrocks => some "REGEXP"
  | _ => some "REGEXP_LIKE"

/-- The function that stands for an operator on documents where a dialect lacks the operator. -/
def documentFunction? (d : Dialect) (op : BinaryOp) : Option String :=
  if d.likePostgres then none
  else match op with
    | .jsonPath => some "JSONB_EXTRACT"
    | .jsonPathText => some "JSONB_EXTRACT_SCALAR"
    | .jsonHasKey => some "JSONB_CONTAINS"
    | _ => none

/-- The whole part of a quotient where a dialect has no operator for it. -/
def wholeQuotientText (d : Dialect) (l r : String) : String :=
  let quotient := l ++ " / " ++ r
  match d with
  | .oracle => "CAST(TRUNC(" ++ quotient ++ ") AS INT)"
  | .clickhouse => "CAST(" ++ quotient ++ " AS Nullable(Int64))"
  | _ => "CAST(" ++ quotient ++ " AS " ++ (DataType.simple "BIGINT" []).render d ++ ")"

def binaryText (d : Dialect) (op : BinaryOp) (notes : List String) (l r : String) : String :=
  let plain (s : String) := l ++ " " ++ s ++ commentTail notes ++ " " ++ r
  match operatorFunction? d op <|> documentFunction? d op with
  | some name => callText name [l, r]
  | none =>
  match op with
  | .likeFolded =>
    if hasFoldedLike d then plain "ILIKE"
    else callText "LOWER" [l] ++ " LIKE " ++ callText "LOWER" [r]
  | .notLikeFolded =>
    if hasFoldedLike d then plain "NOT ILIKE"
    else callText "LOWER" [l] ++ " NOT LIKE " ++ callText "LOWER" [r]
  | .remainder =>
    if d == .bigquery || d == .oracle then callText "MOD" [l, r] else plain "%"
  | .power => callText "POWER" [l, r]
  | .collate =>
    if d == .bigquery || d == .snowflake then callText "COLLATE" [l, r] else plain "COLLATE"
  | .matching =>
    match matchFunction? d with
    | some name => callText name [l, r]
    | none => plain (sign d .matching)
  | .matchingFolded =>
    if d.likePostgres then plain "~*" else callText "REGEXP_ILIKE" [l, r]
  | .differsFrom => if d.likeMysql then "NOT " ++ l ++ " <=> " ++ r else plain (sign d op)
  | .wholeDivide =>
    if d == .duckdb || d.likeMysql || d.likeHive then plain (sign d op)
    else wholeQuotientText d l r
  | op => plain (sign d op)

/-- What `IS` says about a value. A condition that is tested for a truth value stands for itself
where only nulls can be tested for. -/
def isText (d : Dialect) (notes : List String) (tested : Option Form) (l r : String) : String :=
  match d, tested with
  | .presto, some (.boolean true) | .trino, some (.boolean true)
  | .snowflake, some (.boolean true) => l
  | .presto, some (.boolean false) | .trino, some (.boolean false)
  | .snowflake, some (.boolean false) => "NOT " ++ l
  | _, _ => binaryText d .is notes l r

def wrapped (s : String) : String := "(" ++ s ++ ")"

/-- The tested condition is one that a negation in clickhouse puts in parentheses. -/
def negationWraps (d : Dialect) (x : Expr) : Bool :=
  d == .clickhouse && match x.form with
    | .inList | .inQuery | .inField => true
    | .binary .is => true
    | _ => false

/-- A value between two bounds. Most dialects have no word for bounds of any order. -/
def betweenText (d : Dialect) (symmetric : Option Bool) (value low high : String) : String :=
  let plain (word low high : String) := value ++ " BETWEEN " ++ word ++ low ++ " AND " ++ high
  match symmetric with
  | none => plain "" low high
  | some true =>
    if d == .postgres then plain "SYMMETRIC " low high
    else wrapped (plain "" low high ++ " OR " ++ plain "" high low)
  | some false => plain (if d == .postgres then "ASYMMETRIC " else "") low high

end Render

end QueryFlow.Sql
