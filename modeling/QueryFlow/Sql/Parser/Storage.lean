import QueryFlow.Sql.Parser.Rules

/-!
Reading what stands around the list of columns of a new table and says how the table is stored.
Nothing of it is kept. What no rule here reads is left at the cursor, where it makes the statement
count as no table.
-/

namespace QueryFlow.Sql.Parse

open QueryFlow.Sql

def storageFlags : List String :=
  ["DYNAMIC", "EXTERNAL", "GLOBAL", "HEAP", "ICEBERG", "IMMUTABLE", "MATERIALIZED", "MULTISET",
   "SECURE", "STABLE", "STREAMING", "STRICT", "TEMP", "TEMPORARY", "TRANSIENT", "UNLOGGED",
   "VOLATILE"]

def storageSettings : List String :=
  ["ALGORITHM", "AUTO_INCREMENT", "CHARACTER SET", "CHARSET", "COLLATE", "COMMENT", "DISTSTYLE",
   "ENGINE", "FORMAT", "LANGUAGE", "LOCATION", "ROW_FORMAT", "USING"]

def storageLists : List String :=
  ["DISTKEY", "OPTIONS", "PROPERTIES", "SORTKEY", "TBLPROPERTIES"]

/-- Words about storage whose meaning belongs to a single dialect. -/
def storageOpenings : List String :=
  ["BACKUP", "CHECKSUM", "CLUSTERED", "DISTRIBUTED", "DUPLICATE", "PRIMARY KEY", "ROW", "SAMPLE",
   "SETTINGS", "STORED", "TTL"]

def skipToQuery : Parse Unit := do
  let _ ← iterate () fun _ => do
    match ← peek? with
    | none => return none
    | some t =>
      if t.isWord "AS" || t.isWord "SELECT" || t.isSymbol ")" then return none
      skip 1
      if t.isSymbol "(" then skipGroup
      return some ()
  return ()

/-- What a table is split by; `PARTITION BY` has been read. -/
def partitioning? (g : Grammar) : Parse (Option Unit) := do
  if g.dialect.likeMysql then
    match ← oneOf ["RANGE", "LIST"] with
    | none => return none
    | some _ =>
      let _ ← inParens (commaList g.condition)
      if ← symbol "(" then skipGroup
      return some ()
  else
    let _ ← symbol "="
    if ← symbol "(" then skipGroup
    else
      let e ← need "a value" (atom? g)
      let _ ← brackets g e
    return some ()

/-- The table of which a new table is a part, and the rows that it holds. -/
def partOf (g : Grammar) : Parse Unit := do
  let _ ← tablePath g false
  let _ ← tableSchema? g
  unless ← word "DEFAULT" do
    unless ← words ["FOR", "VALUES"] do fail "FOR VALUES"
    if ← word "IN" then
      let _ ← inParens (commaList g.bitwise)
    else if ← word "FROM" then
      let _ ← inParens (commaList g.bitwise)
      let _ ← word "TO"
      let _ ← inParens (commaList g.bitwise)
    else if ← word "WITH" then
      expect "("
      skipGroup

/-- What follows `WITH` behind a list of columns. -/
def withStorage? (g : Grammar) : Parse (Option Unit) := do
  if ← symbol "(" then
    if ← word "SYSTEM_VERSIONING" then skipGroup
    else
      let _ ← separated (setting? g)
      expect ")"
    return some ()
  else if (← words ["NO", "DATA"]) || (← word "DATA") then
    if ← words ["AND", "NO", "STATISTICS"] then return some ()
    let _ ← words ["AND", "STATISTICS"]
    return some ()
  else return (← oneOf ["ENCRYPTION", "SCHEMABINDING", "VIEW_METADATA"]).map fun _ => ()

/-- What a word about storage says; no answer when the word says nothing of the kind here. -/
def storageBody? (g : Grammar) (w : String) : Parse (Option Unit) := do
  let known : Parse (Option Unit) := return some ()
  if storageFlags.contains w then known
  else if storageSettings.contains w then
    let _ ← symbol "="
    let _ ← word "AS"
    let _ ← need "a value" (atom? g)
    known
  else if storageLists.contains w then
    expect "("
    skipGroup
    known
  else match w with
    | "WITH" => withStorage? g
    | "ON" =>
      unless (← words ["COMMIT", "PRESERVE", "ROWS"]) || (← words ["COMMIT", "DELETE", "ROWS"]) do
        let cluster ← if g.dialect == .clickhouse then word "CLUSTER" else pure false
        let _ ← anyName?
        unless cluster do
          let _ ← tableSchema? g
      known
    | "INHERITS" =>
      let _ ← inParens (separated do return some (← tablePath g false))
      known
    | "LIKE" =>
      let _ ← tablePath g false
      let _ ← tableSchema? g
      let _ ← iterate () fun _ => do
        match ← oneOf ["INCLUDING", "EXCLUDING"] with
        | some _ => return (← anyName?).map fun _ => ()
        | none => return none
      known
    | "PARTITION BY" | "PARTITIONED BY" => partitioning? g
    | "PARTITION" => if ← word "OF" then partOf g; known else return none
    | "ORDER BY" => let _ ← orderItems g; known
    | "CLUSTER BY" =>
      if ← symbol "(" then skipGroup
      else let _ ← commaList g.bitwise
      known
    | "DEFAULT" =>
      match ← oneOf storageSettings with
      | some _ =>
        let _ ← symbol "="
        let _ ← need "a value" (atom? g)
        known
      | none => return none
    | "COMPOUND" =>
      if ← word "SORTKEY" then
        expect "("
        skipGroup
        known
      else return none
    | "NO" => if ← words ["PRIMARY", "INDEX"] then known else return none
    | w =>
      if storageOpenings.contains w then
        skipToQuery
        known
      else return none

/-- One thing that is said about storage and starts with a word for it. -/
def storageWord? (g : Grammar) : Parse (Option Unit) := backtrack do
  match ← anyKnownWord? with
  | some w => storageBody? g w
  | none => return none
where
  anyKnownWord? : Parse (Option String) := do
    match (← peek?).bind Token.word? with
    | some u =>
      skip 1
      return some u
    | none => return none

/-- Step over words about storage in front of a list of columns. -/
def storageBefore (g : Grammar) : Parse Unit := iterate () fun _ => do
  let _ ← symbol ","
  if ← nextIs fun t => (t.word?.map storageOpenings.contains).getD false then return none
  storageWord? g

def storage (g : Grammar) : Parse Unit := iterate () fun _ => do
  match ← storageWord? g with
  | some _ => return some ()
  | none => setting? g

end QueryFlow.Sql.Parse
