import QueryFlow.Sql.Parser.Storage

/-!
Reading `CREATE` statements. Only tables with a list of columns are kept. Everything else that is
created needs a name of the right form, and nothing more is said about it; a statement that goes on
with words of no known meaning counts as no table either.
-/

namespace QueryFlow.Sql.Parse

open QueryFlow.Sql

def fillingQuery? (g : Grammar) : Parse (Option Unit) := do
  match ← plainQuery? g with
  | some q =>
    let _ ← clauses g (← setOperations g q)
    return some ()
  | none => return none

def ifNotExists : Parse Unit := do
  if ← word "IF" then
    if ← word "NOT" then
      let _ ← word "EXISTS"
      return ()

def ifExists : Parse Unit := do
  if ← word "IF" then
    let _ ← word "EXISTS"
    return ()

/-- What can be created, changed and dropped by its name. -/
def creatableKinds (d : Dialect) : List String :=
  ["COLUMN", "CONSTRAINT", "DATABASE", "FOREIGN KEY", "FUNCTION", "INDEX", "NAMESPACE", "PROCEDURE",
   "SCHEMA", "SEQUENCE", "TABLE", "VIEW"] ++
  match d with
  | .snowflake => ["STAGE", "STREAMLIT", "TAG", "WAREHOUSE"]
  | .bigquery => ["MODEL"]
  | .clickhouse => ["DICTIONARY"]
  | .tsql => ["PROC"]
  | .duckdb => ["MACRO"]
  | _ => []

/-- Words between `CREATE` and the kind of what is created. -/
def creationWords : List String :=
  ["DYNAMIC", "EXTERNAL", "GLOBAL", "ICEBERG", "MATERIALIZED", "MULTISET", "SECURE", "SET", "TEMP",
   "TEMPORARY", "TRANSIENT", "UNLOGGED", "VOLATILE"]

def declarationOf (name : String) (items : List SchemaItem) : TableDeclaration where
  name := name
  columns := items.filterMap fun
    | .column c => some c
    | _ => none
  rules := items.flatMap fun
    | .rules rs => rs
    | _ => []

/-- The rest of a statement of which nothing is kept. When nothing is left, the statement lacks what
was wanted. -/
def skipRest (wanted : String) : Parse Unit := do
  if (← rest).isEmpty then fail wanted
  skipAll

/-- A new index; its word has been read. -/
def indexBody (g : Grammar) : Parse Unit := do
  let anonymous ← word "ON"
  let named ← if anonymous then pure true else do pure (← anyName?).isSome
  if named then
    let _ ← word "ON"
    let _ ← word "TABLE"
    let _ ← tablePath g false
    indexOptions g
    skipAll
  else skipRest "a name"

/-- A new function or procedure; its word has been read. -/
def routineBody (g : Grammar) : Parse Unit := do
  let _ ← tablePath g false
  if ← symbol "(" then skipGroup
  skipAll

/-- A new table or view; its word has been read. -/
def relationBody (g : Grammar) (kind : String) : Parse Statement := do
  let t ← tablePath g false
  let name := match t.form with
    | .table path _ => ((path.getLast?).map (·.text)).getD ""
    | _ => ""
  storageBefore g
  let items ← tableSchema? g
  storage g
  let opened ← word "AS"
  let startsQuery ← nextIs fun t => t.isSymbol "(" || t.isWord "SELECT" || t.isWord "WITH"
  unless startsQuery do storage g
  let filled ← fillingQuery? g
  if opened && filled.isNone then
    let _ ← attempt do return some (← tablePath g false)
  storage g
  if (← word "CLONE") || (← word "COPY") then
    let _ ← tablePath g false
  let leftOver ← nextIs fun t => !(t.isSymbol ")" || t.isSymbol ",")
  if leftOver then
    skipAll
    return .other
  else
    match kind, items with
    | "TABLE", some items => return .declaration (declarationOf name items)
    | _, _ => return .other

/-- A statement whose `CREATE` has been read. -/
def createBody (g : Grammar) : Parse Statement := do
  let _ ← if ← words ["OR", "REPLACE"] then pure true
    else if ← words ["OR", "ALTER"] then pure true
    else words ["OR", "REFRESH"]
  let _ ← word "UNIQUE"
  let _ ← iterate () fun _ => do
    match ← oneOf creationWords with
    | some _ => return some ()
    | none => return none
  if (← atWord "TABLE") && (← secondIs (·.isWord "FUNCTION")) then skip 1
  match ← oneOf (creatableKinds g.dialect) with
  | none =>
    skipAll
    return .other
  | some kind =>
    let _ ← word "CONCURRENTLY"
    ifNotExists
    match kind with
    | "TABLE" | "VIEW" => relationBody g kind
    | "INDEX" => indexBody g; return .other
    | "FUNCTION" | "MACRO" | "PROC" | "PROCEDURE" => routineBody g; return .other
    | "COLUMN" | "CONSTRAINT" | "FOREIGN KEY" => skipRest "something to create"; return .other
    | _ =>
      let _ ← tablePath g false
      skipAll
      return .other

end QueryFlow.Sql.Parse
