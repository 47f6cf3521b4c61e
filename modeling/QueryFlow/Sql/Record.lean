import QueryFlow.Sql.DataType.Spelling
import QueryFlow.Sql.Expr
import QueryFlow.Sql.Literal
import QueryFlow.Sql.Phrase

/-!
Records: values with names, which every dialect builds in its own way.
-/

namespace QueryFlow.Sql

/-- A value of a record, with its name when it has one. -/
structure RecordField where
  key : Option Name
  value : Expr

namespace RecordField

def ofArgument : Expr → RecordField
  | .node (.alias n) _ [x] => ⟨some n, x⟩
  | .node .slice _ (k :: v :: _) => ⟨some (Name.ofText k.nameText), v⟩
  | .node (.binary .equal) _ [k, v] => ⟨some (Name.ofText k.nameText), v⟩
  | .node (.phrase "$1 := $2") _ [k, v] => ⟨some (Name.ofText k.nameText), v⟩
  | e => ⟨none, e⟩

/-- The field with a name that counts its place, unless it has a name or is a column. -/
def counted (place : Nat) (f : RecordField) : RecordField :=
  match f.key, f.value.form with
  | some _, _ => f
  | none, .column path => { f with key := path.getLast? }
  | none, _ => { f with key := some (.bare ("col" ++ toString (place + 1))) }

end RecordField

namespace Record

/-- The type of a value as far as its form tells. -/
def typeText? (d : Dialect) : Expr → Option String
  | .node f _ xs =>
    let simple (t : String) : Option String := some ((DataType.simple t []).render d)
    match f, xs with
    | .number s, _ => simple (if s.any (· == '.') then "DOUBLE" else "INT")
    | .string _, _ => simple "VARCHAR"
    | .boolean _, _ => simple "BOOLEAN"
    | .cast t _, _ => some (t.render d)
    | .unary .negative, [x] | .paren, [x] => typeText? d x
    | _, _ => none

/-- A pattern with one piece for each field. -/
def pieces (fields : List RecordField) (piece : RecordField → String → Nat → String) : String :=
  ", ".intercalate (fields.zipIdx.map fun (f, i) => piece f ("$" ++ toString (i + 1)) i)

/-- The key of a field as a string literal; a field without a name is known by its place. -/
def keyLiteral (d : Dialect) (f : RecordField) (place : Nat) : String :=
  Phrase.literal (Literal.quote d (f.key.elim ("_" ++ toString place) (·.text)))

def aliased (d : Dialect) (f : RecordField) (gap : String) (_ : Nat) : String :=
  gap ++ (f.key.elim "" fun k => " AS " ++ Phrase.literal (k.render d))

/-- A record where names are part of the type; when some type is not known, it has no names. -/
def typedPattern (d : Dialect) (fields : List RecordField) : String :=
  let row := "ROW(" ++ pieces fields (fun _ gap _ => gap) ++ ")"
  let types := fields.filterMap fun f => do
    let k ← f.key
    let t ← typeText? d f.value
    return k.render d ++ " " ++ t
  if fields.isEmpty || types.length < fields.length then row
  else "CAST(" ++ row ++ " AS ROW(" ++ Phrase.literal (", ".intercalate types) ++ "))"

def pattern (d : Dialect) (fields : List RecordField) : String :=
  match d with
  | .duckdb => "\x7b" ++ pieces fields (fun f gap i => keyLiteral d f i ++ ": " ++ gap) ++ "\x7d"
  | .snowflake =>
    let piece (f : RecordField) (gap : String) (i : Nat) : String :=
      if f.key.isSome then keyLiteral d f i ++ ", " ++ gap else gap
    "OBJECT_CONSTRUCT(" ++ pieces fields piece ++ ")"
  | .clickhouse =>
    let piece (f : RecordField) (gap : String) (_ : Nat) : String :=
      (f.key.elim "" fun k => Phrase.literal (k.render d) ++ " := ") ++ gap
    "tuple(" ++ pieces fields piece ++ ")"
  | .presto | .trino => typedPattern d fields
  | .hive => "STRUCT(" ++ pieces fields (fun _ gap _ => gap) ++ ")"
  | _ => "STRUCT(" ++ pieces fields (aliased d) ++ ")"

def ofFields (d : Dialect) (fields : List RecordField) : Expr :=
  .of (.phrase (pattern d fields)) (fields.map (·.value))

def ofArguments (d : Dialect) (args : List Expr) : Expr :=
  let fields := args.map RecordField.ofArgument
  if d == .spark || d == .databricks then
    ofFields d (fields.zipIdx.map fun (f, i) => f.counted i)
  else ofFields d fields

/-- What stands between braces. In one dialect it is a map. -/
def ofBraces (d : Dialect) (args : List Expr) : Expr :=
  let fields := args.map RecordField.ofArgument
  if d == .clickhouse then
    .of (.phrase ("map(" ++ pieces fields (fun f gap i => keyLiteral d f i ++ ", " ++ gap) ++ ")"))
      (fields.map (·.value))
  else ofFields d fields

/-- A map from keys to values, whose keys may be any expressions, in the words of a dialect; none
where braces only mean records. -/
def map? (d : Dialect) (args : List Expr) : Option Expr :=
  let braces? : Option (String × String) := match d with
    | .duckdb => some ("MAP \x7b", ": ")
    | .starrocks => some ("MAP\x7b", ":")
    | _ => none
  braces?.map fun (opening, colon) =>
    let pair (i : Nat) : String :=
      "$" ++ toString (2 * i + 1) ++ colon ++ "$" ++ toString (2 * i + 2)
    .of (.phrase (opening ++ ", ".intercalate ((List.range args.length).map pair) ++ "\x7d"))
      (args.flatMap fun
        | .node .slice _ (k :: v :: _) => [k, v]
        | e => [e, .of .null])

end Record

end QueryFlow.Sql
