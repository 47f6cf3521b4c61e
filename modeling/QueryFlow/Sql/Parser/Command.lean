import QueryFlow.Sql.Parser.Change

/-!
Reading statements of which only the presence is kept: changes of what is declared, rights, sessions
and transactions. Some of them have to be of a given form up to their end, others only up to a name,
and the words behind it may be any.
-/

namespace QueryFlow.Sql.Parse

open QueryFlow.Sql

/-- Words behind which a statement may hold anything. -/
def freeCommands : List String :=
  ["CALL", "EXECUTE", "EXPLAIN", "FETCH", "LOAD", "OPTIMIZE", "PREPARE", "RENAME", "SHOW", "VACUUM"]

/-- Words of the same kind in some dialects only. -/
def ownFreeCommands : Dialect → List String
  | .postgres | .redshift => ["DECLARE", "DO", "EXEC", "REFRESH", "REINDEX", "RESET"]
  | .bigquery => ["BEGIN", "DECLARE", "EXPORT"]
  | .tsql => ["BEGIN", "DECLARE", "EXEC", "GO"]
  | .clickhouse => ["ATTACH", "DETACH", "DECLARE"]
  | .duckdb => ["ATTACH", "DETACH", "RESET"]
  | .sqlite => ["ATTACH", "DETACH"]
  | .snowflake => ["BEGIN", "GET", "LIST", "LS", "PUT", "REMOVE", "RM", "UNSET"]
  | .hive | .spark | .databricks => ["MSCK", "REFRESH"]
  | .mysql | .starrocks => ["START", "LOCK", "UNLOCK"]
  | .presto | .trino => ["START", "DEALLOCATE"]
  | _ => []

def listedTable (g : Grammar) : Parse Unit := do
  let _ ← word "ONLY"
  let _ ← tablePath g true
  let _ ← symbol "*"
  let _ ← tableSchema? g

/-- `ON` and the place to which a change is limited. -/
def changePlace (g : Grammar) : Parse Unit := do
  if ← atWord "ON" then
    let _ ← storageWord? g

def alterBody (g : Grammar) : Parse Unit := do
  let _ ← word "ICEBERG"
  match ← oneOf ["TABLE", "VIEW"] with
  | none => skipAll
  | some _ =>
    ifExists
    listedTable g
    if ← word "RENAME" then
      unless ← atWord "COLUMN" do
        let _ ← word "TO"
        let _ ← tablePath g false
    else if ← word "ALTER" then
      let _ ← word "COLUMN"
      let _ ← need "a column" anyName?
    else if ← word "ADD" then
      if (← atWord "CONSTRAINT") || (← atWord "PRIMARY KEY") || (← atWord "FOREIGN KEY") then
        let _ ← separated (schemaItem? g 8)
      else
        let _ ← word "COLUMN"
        ifNotExists
        let _ ← columnDeclaration? g (tableSchema? g)
    skipAll

/-- Words that say how much is looked at. -/
def analysisManners : List String :=
  ["BUFFER_USAGE_LIMIT", "FULL", "LOCAL", "NO_WRITE_TO_BINLOG", "SAMPLE", "SKIP_LOCKED", "VERBOSE"]

def analysisWords : List String :=
  ["ALL", "COMPUTE", "DELETE", "DROP", "ESTIMATE", "LIST", "PARTITION", "PREDICATE", "UPDATE",
   "VALIDATE", "WITH"]

def analyzeBody (g : Grammar) : Parse Unit := do
  if (← rest).isEmpty then return ()
  iterate () fun _ => do
    match ← oneOf analysisManners with
    | some "BUFFER_USAGE_LIMIT" =>
      let _ ← literal? g
      return some ()
    | some _ => return some ()
    | none => return none
  let known := (← nextIs fun t => (t.word?.map analysisWords.contains).getD false)
  unless known do
    match ← oneOf ["TABLE", "INDEX", "TABLES", "DATABASE", "CLUSTER"] with
    | some "TABLES" =>
      if (← oneOf ["FROM", "IN"]).isSome then
        let _ ← tablePath g false
    | _ =>
      let _ ← tablePath g false
  if ← nextIs fun t => (t.word?.map analysisWords.contains).getD false then skipAll
  storage g

/-- `BEGIN` behind its word: the manner of a transaction. -/
def transactionBody : Parse Unit := do
  let _ ← oneOf ["DEFERRED", "IMMEDIATE", "EXCLUSIVE"]
  let _ ← oneOf ["TRANSACTION", "WORK"]
  iterate () fun _ => do
    let mode ← accept fun t => t.isWord "NOT" || t.isSymbol "," ||
      (t.word?.map fun u => !keywords.contains u).getD false
    return if mode then some () else none

def transactionEnd : Parse Unit := do
  let _ ← oneOf ["TRANSACTION", "WORK"]
  if ← word "TO" then
    let _ ← word "SAVEPOINT"
    let _ ← anyName?
  if ← word "AND" then
    let _ ← word "NO"
    let _ ← word "CHAIN"

def commentBody (g : Grammar) : Parse Unit := do
  ifExists
  let _ ← word "ON"
  let _ ← word "MATERIALIZED"
  match ← oneOf (creatableKinds g.dialect) with
  | none => skipAll
  | some kind =>
    let _ ← tablePath g false
    if kind == "FUNCTION" || kind == "PROCEDURE" then
      if ← symbol "(" then skipGroup
    let _ ← word "IS"
    match ← peek? with
    | some ⟨.string _, _⟩ | some ⟨.marked .raw _, _⟩ | some ⟨.marked .national _, _⟩
    | some ⟨.marked .unicode _, _⟩ => skip 1
    | _ => fail "a string"

def copyBody (g : Grammar) : Parse Unit := do
  let _ ← word "INTO"
  if ← atSymbol "(" then
    let _ ← wrappedQuery g g.plainQuery
  else listedTable g
  iterate () fun _ => do
    match ← peek? with
    | none => return none
    | some t =>
      skip 1
      if t.isSymbol "(" then skipGroup
      return some ()

/-- Words that start a statement other than a query. -/
def statementWords : List String :=
  ["ALTER", "ANALYZE", "BEGIN", "CACHE", "COMMENT", "COMMIT", "COPY", "CREATE", "DELETE", "DESC",
   "DESCRIBE", "DROP", "GRANT", "INSERT", "KILL", "LOAD", "MERGE", "PRAGMA", "REVOKE", "ROLLBACK",
   "SET", "TRUNCATE", "UNCACHE", "UPDATE", "USE"]

def describeBody (g : Grammar) : Parse Unit := do
  unless ← secondIs (·.isSymbol ".") do
    let _ ← oneOf (creatableKinds g.dialect)
    unless ← secondIs (·.isSymbol ".") do
      let _ ← oneOf ["ANALYZE", "EXTENDED", "FORMATTED", "HISTORY"]
  if (← atWord "FORMAT") && (← secondIs (·.isSymbol "=")) then
    let _ ← setting? g
  if ← nextIs fun t => (t.word?.map statementWords.contains).getD false then
    let _ ← need "a statement" g.statement
  else
    let query ← nextIs fun t => t.isSymbol "(" ||
      ["SELECT", "WITH", "VALUES", "FROM", "LATERAL", "UNNEST"].any fun w => t.isWord w
    if query then
      let _ ← need "a table" g.item
    else listedTable g
  storage g
  if ← word "PARTITION" then
    expect "("
    skipGroup
  let _ ← words ["AS", "JSON"]

def dropBody (g : Grammar) : Parse Unit := do
  let _ ← oneOf ["TEMP", "TEMPORARY"]
  let _ ← word "MATERIALIZED"
  let _ ← word "ICEBERG"
  match ← oneOf (creatableKinds g.dialect) with
  | none => skipAll
  | some _ =>
    let _ ← word "CONCURRENTLY"
    ifExists
    let _ ← tablePath g false
    changePlace g
    if ← atSymbol "(" then
      let _ ← inParens (separated (g.dataType false))
    let _ ← oneOf ["CASCADE", "RESTRICT"]
    let _ ← word "CONSTRAINTS"
    let _ ← word "PURGE"
    let _ ← word "SYNC"

/-- One right that is given or taken: its words, and the columns for which it holds. -/
def privilege (g : Grammar) : Parse (Option Unit) := do
  let ends (t : Token) : Bool := t.isWord "ON" || t.isSymbol "," || t.isSymbol "("
  unless ← nextIs (!ends ·) do fail "a right"
  iterate () fun _ => do
    return if ← accept (!ends ·) then some () else none
  if ← atSymbol "(" then
    let _ ← inParens (commaList g.expression)
  return some ()

def rightsBody (g : Grammar) : Parse Unit := do
  let _ ← words ["GRANT", "OPTION", "FOR"]
  let _ ← separated (privilege g)
  skipAll

def sessionSetting? (g : Grammar) : Parse (Option Unit) := backtrack do
  let _ ← oneOf ["GLOBAL", "LOCAL", "SESSION"]
  match ← atom? g with
  | none => return none
  | some e =>
    let _ ← columnTail g e
    unless (← symbol "=") || (← symbol ":=") || (← word "TO") do return none
    match ← g.statement with
    | some _ => return some ()
    | none =>
      let _ ← need "a value" anyName?
      return some ()

def setBody (g : Grammar) : Parse Unit := do
  let _ ← separated (sessionSetting? g)
  skipAll

def truncateBody (g : Grammar) : Parse Unit := do
  if ← symbol "(" then
    let _ ← commaList g.expression
    expect ")"
  else
    let _ ← word "DATABASE"
    let _ ← word "TABLE"
    ifExists
    let _ ← separated do
      listedTable g
      return some ()
    changePlace g
    skipAll

def useBody (g : Grammar) : Parse Unit := do
  let _ ← oneOf ["ROLE", "WAREHOUSE", "DATABASE", "SCHEMA", "CATALOG"]
  let _ ← need "a name" g.item

def cacheBody (g : Grammar) : Parse Unit := do
  let _ ← word "LAZY"
  let _ ← word "TABLE"
  listedTable g
  if ← word "OPTIONS" then
    expect "("
    skipGroup
  let _ ← word "AS"
  let _ ← fillingQuery? g

def uncacheBody (g : Grammar) : Parse Unit := do
  expectWord "TABLE"
  ifExists
  listedTable g

/-- A statement that is no query; the answer tells whether it may have a WITH clause. -/
def command? (g : Grammar) : Parse (Option Bool) := do
  let plain (body : Parse Unit) : Parse (Option Bool) := do
    skip 1
    body
    return some false
  let changing (body : Parse Unit) : Parse (Option Bool) := do
    skip 1
    body
    return some true
  match (← peek?).bind Token.word? with
  | none => return none
  | some u =>
    if freeCommands.contains u && !(u == "EXPLAIN" && g.dialect.likeMysql)
        || (ownFreeCommands g.dialect).contains u then
      plain skipAll
    else match u with
      | "INSERT" => changing (insertBody g)
      | "UPDATE" => changing (updateBody g)
      | "DELETE" => changing (deleteBody g)
      | "MERGE" => changing (mergeBody g)
      | "CREATE" => changing do
        let _ ← createBody g
      | "ALTER" => plain (alterBody g)
      | "ANALYZE" => plain (analyzeBody g)
      | "BEGIN" => plain transactionBody
      | "CACHE" => plain (cacheBody g)
      | "COMMENT" => plain (commentBody g)
      | "COMMIT" | "ROLLBACK" => plain transactionEnd
      | "COPY" => plain (copyBody g)
      | "DESC" | "DESCRIBE" | "EXPLAIN" => plain (describeBody g)
      | "DROP" => plain (dropBody g)
      | "GRANT" | "REVOKE" => plain (rightsBody g)
      | "KILL" => plain do
        let _ ← oneOf ["CONNECTION", "QUERY"]
        let _ ← need "a value" (literal? g)
      | "PRAGMA" => plain do
        let _ ← need "a value" g.expression
      | "SET" => plain (setBody g)
      | "TRUNCATE" => plain (truncateBody g)
      | "UNCACHE" => plain (uncacheBody g)
      | "USE" => plain (useBody g)
      | _ => return none

end QueryFlow.Sql.Parse
