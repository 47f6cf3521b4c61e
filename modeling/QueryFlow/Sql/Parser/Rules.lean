import QueryFlow.Sql.Parser.Query
import QueryFlow.Sql.Statement

/-!
Reading the list of columns behind a table name: columns with their types and rules, and rules of
the table. Rules about keys, nulls and default values are kept, and all others are only stepped
over.
-/

namespace QueryFlow.Sql.Parse

open QueryFlow.Sql

def skipAll : Parse Unit := modify fun c => { c with rest := [] }

def countingTail (g : Grammar) : Parse Unit := do
  if ← atSymbol "(" then
    let _ ← inParens (commaList g.bitwise)
    return ()
  else if ← word "START" then
    let _ ← g.bitwise
    let _ ← word "INCREMENT"
    let _ ← g.bitwise
    let _ ← oneOf ["ORDER", "NOORDER"]
    return ()

/-- What happens to a row whose key changes, and when a key is checked. -/
def keyOptions : Parse Unit := do
  let step : Unit → Parse (Option Unit) := fun _ => do
    if ← word "ON" then
      let _ ← anyWord?
      let known ← do
        if ← words ["NO", "ACTION"] then pure true
        else if ← word "CASCADE" then pure true
        else if ← word "RESTRICT" then pure true
        else if ← words ["SET", "NULL"] then pure true
        else words ["SET", "DEFAULT"]
      unless known do fail "an action"
      return some ()
    if ← words ["NOT", "ENFORCED"] then return some ()
    if ← word "MATCH" then
      match ← oneOf ["FULL", "PARTIAL", "SIMPLE"] with
      | some _ => return some ()
      | none => fail "a way to match"
    if ← word "INITIALLY" then
      match ← oneOf ["DEFERRED", "IMMEDIATE"] with
      | some _ => return some ()
      | none => fail "a time"
    if ← words ["USING", "BTREE"] then return some ()
    if ← words ["USING", "HASH"] then return some ()
    match ← oneOf ["DEFERRABLE", "NORELY", "RELY"] with
    | some _ => return some ()
    | none => return none
  iterate () step

def setting? (g : Grammar) : Parse (Option Unit) := attempt do
  match ← atom? g with
  | none => return none
  | some e =>
    let _ ← columnTail g e
    unless ← symbol "=" do return none
    match ← g.bitwise with
    | some _ => return some ()
    | none => return (← anyName?).map fun _ => ()

/-- An item of an index: a value with its order, a class of operators and an operator. -/
def indexItem? (g : Grammar) : Parse (Option Unit) := do
  match ← g.condition with
  | none => return none
  | some _ =>
    let follows ← nextIs fun t => t.isSymbol "," || t.isSymbol ")" ||
      ["ASC", "DESC", "NULLS", "WITH"].any fun w => t.isWord w
    unless follows do
      let _ ← tablePath g false
    let _ ← word "ASC"
    let _ ← word "DESC"
    let _ ← words ["NULLS", "FIRST"]
    let _ ← words ["NULLS", "LAST"]
    let _ ← fill? g
    if ← word "WITH" then skip 1
    return some ()

/-- How an index is kept: its method, its items, and what else it holds. -/
def indexOptions (g : Grammar) : Parse Unit := do
  let space : Parse Unit := do
    if ← words ["USING", "INDEX", "TABLESPACE"] then
      let _ ← anyName?
  space
  if ← word "USING" then
    let _ ← anyName?
  if ← atSymbol "(" then
    let _ ← inParens (separated (indexItem? g))
  if ← word "INCLUDE" then
    let _ ← inParens (separated anyName?)
  if ← word "PARTITION BY" then
    let _ ← commaList g.condition
  if ← word "WITH" then
    let _ ← inParens (separated (setting? g))
  space
  if ← word "WHERE" then
    let _ ← need "a condition" g.condition
  if ← word "ON" then
    let _ ← atom? g

/-- A rule of a column, or of a table. Rules about nothing that is kept are only stepped over. -/
inductive AnyRule where
  | column (rule : ColumnRule)
  | table (rule : TableRule)

/-- A part of a list between parentheses behind a table name: a column with its name, or rules. -/
inductive SchemaItem where
  | column (declaration : ColumnDeclaration)
  | bare (name : String)
  | rules (rules : List TableRule)

/-- A column as an item. A bare name, without a type and without rules, is none. -/
def SchemaItem.ofColumn (c : ColumnDeclaration) : SchemaItem :=
  if c.type.isNone && c.rules.isEmpty then .bare c.name else .column c

def SchemaItem.name : SchemaItem → String
  | .column c => c.name
  | .bare n => n
  | .rules _ => ""

def keyPart? (g : Grammar) : Parse (Option String) := do
  if g.dialect == .tsql then
    match ← orderItem? g with
    | some (.node (.ordered ..) _ (e :: _)) => return some e.nameText
    | _ => return none
  else
    match ← name? g.dialect with
    | some n =>
      if g.dialect.likeMysql && (← symbol "(") then skipGroup
      return some n.text
    | none =>
      match ← literal? g with
      | some e => return some e.nameText
      | none => return none

/-- A table that a key points to: its name, and its columns where they are listed. -/
def keyTarget (g : Grammar) (columns : Parse (Option (List SchemaItem))) : Parse KeyTarget := do
  let t ← tablePath g false
  let name := match t.form with
    | .table path _ => ((path.getLast?).map (·.text)).getD ""
    | _ => ""
  let listed ← columns
  keyOptions
  return ⟨some name, (listed.getD []).map SchemaItem.name⟩

/-- The list of columns behind a table name, unless a query starts there. -/
def schemaList? (item : Parse (Option SchemaItem)) : Parse (Option (List SchemaItem)) := do
  unless ← atSymbol "(" do return none
  if ← secondIs fun t => t.isSymbol "(" || t.isWord "WITH" || t.isWord "SELECT" then return none
  skip 1
  let items ← separated item
  expect ")"
  return some items

def tableRuleWords (d : Dialect) : List String :=
  ["CHECK", "EXCLUDE", "FOREIGN KEY", "LIKE", "PERIOD", "PRIMARY KEY", "UNIQUE"]
    ++ (if d.likeMysql then ["FULLTEXT", "INDEX", "KEY", "SPATIAL"] else [])
    ++ if d == .clickhouse then ["INDEX", "PROJECTION"] else []

def columnRuleWords (d : Dialect) : List String :=
  tableRuleWords d ++
  ["AUTOINCREMENT", "AUTO_INCREMENT", "CASESPECIFIC", "CHARACTER SET", "CLUSTERED", "COLLATE",
   "COMMENT", "COMPRESS", "DEFAULT", "ENCODE", "EPHEMERAL", "FORMAT", "GENERATED", "IDENTITY",
   "INLINE", "NONCLUSTERED", "NOT", "NULL", "ON", "PATH", "REFERENCES", "TITLE", "TTL",
   "UPPERCASE", "WITH"] ++
  match d with
  | .mysql | .starrocks => ["BINARY", "INVISIBLE", "VISIBLE", "ZEROFILL"]
  | .oracle => ["INVISIBLE", "VISIBLE"]
  | .bigquery => ["OPTIONS"]
  | .clickhouse => ["CODEC"]
  | .snowflake => ["MASKING", "PROJECTION", "TAG"]
  | _ => []

def generatedBody (g : Grammar) : Parse Unit := do
  if ← words ["BY", "DEFAULT"] then
    let _ ← words ["ON", "NULL"]
  else
    let _ ← word "ALWAYS"
  let _ ← word "AS"
  if ← word "ROW" then
    let _ ← oneOf ["START", "END"]
    let _ ← word "HIDDEN"
    return ()
  let _ ← word "IDENTITY"
  if ← symbol "(" then skipGroup
  if g.dialect.likePostgres then
    let _ ← word "STORED"
  else if g.dialect.likeMysql then
    let _ ← oneOf ["STORED", "VIRTUAL"]
  return ()

/-- A rule about who sees a column, or about its tags; its first word has been read. -/
def policy (g : Grammar) (w : String) : Parse Unit := do
  if w == "TAG" then
    let _ ← inParens (separated (setting? g))
  else
    expectWord "POLICY"
    let _ ← tablePath g false
    if ← word "USING" then
      let _ ← inParens (separated anyName?)

/-- An index among the rules of a table; its first word has been read. -/
def keyBody (g : Grammar) (w : String) : Parse Unit := do
  if g.dialect == .clickhouse then
    let _ ← anyName?
    let _ ← g.condition
    if ← word "TYPE" then
      let _ ← atom? g
    if ← word "GRANULARITY" then
      let _ ← g.term
  else
    if w == "FULLTEXT" || w == "SPATIAL" then
      let _ ← oneOf ["KEY", "INDEX"]
    let _ ← name? g.dialect
    if ← word "USING" then
      let _ ← anyName?
    let _ ← inParens (separated (indexItem? g))
    let _ ← iterate () fun _ => do
      if ← word "KEY_BLOCK_SIZE" then
        let _ ← symbol "="
        let _ ← literal? g
        return some ()
      else if ← word "COMMENT" then
        let _ ← stringName?
        return some ()
      else if (← word "USING") || (← words ["WITH", "PARSER"]) then
        let _ ← anyName?
        return some ()
      else return (← oneOf ["INVISIBLE", "VISIBLE"]).map fun _ => ()

/-- What comes behind the word of a rule; no answer means that the word starts no rule here. -/
def ruleBody? (g : Grammar) (columns : Parse (Option (List SchemaItem))) (w : String) :
    Parse (Option AnyRule) := do
  let other : Parse (Option AnyRule) := return some (.column .other)
  match w with
  | "PRIMARY KEY" =>
    let _ ← oneOf ["ASC", "DESC"]
    if (← nextIs (isName g.dialect)) && (← secondIs (·.isSymbol "(")) then skip 1
    if ← symbol "(" then
      let parts ← separated (keyPart? g)
      expect ")"
      if parts.isEmpty then fail "a column"
      indexOptions g
      keyOptions
      return some (.table (.primaryKey parts))
    else
      keyOptions
      return some (.column .primaryKey)
  | "FOREIGN KEY" =>
    let parts ← if ← atWord "REFERENCES" then pure [] else
      inParens (separated (do return (← anyName?).map (·.text)))
    let target ← if ← word "REFERENCES" then keyTarget g columns else pure {}
    keyOptions
    return some (.table (.foreignKey parts target))
  | "REFERENCES" => return some (.column (.references (← keyTarget g columns)))
  | "UNIQUE" =>
    let _ ← oneOf ["KEY", "INDEX"]
    let _ ← words ["NULLS", "NOT", "DISTINCT"]
    unless g.dialect.likePostgres do
      let _ ← name? g.dialect
    let _ ← columns
    if ← word "USING" then
      let _ ← anyWord?
    keyOptions
    other
  | "CHECK" =>
    let _ ← inParens (need "a condition" g.condition)
    let _ ← word "ENFORCED"
    other
  | "NOT" =>
    if ← word "NULL" then return some (.column .notNull)
    if ← word "CASESPECIFIC" then return ← other
    if ← words ["FOR", "REPLICATION"] then return ← other
    fail "NULL"
  | "NULL" | "CASESPECIFIC" | "UPPERCASE" | "ZEROFILL" | "BINARY" | "INVISIBLE" | "VISIBLE" => other
  | "DEFAULT" => return some (.column (.defaultValue (← need "a value" g.bitwise)))
  | "AUTOINCREMENT" | "AUTO_INCREMENT" | "IDENTITY" => countingTail g; other
  | "GENERATED" => generatedBody g; other
  | "COLLATE" | "CHARACTER SET" | "TITLE" | "FORMAT" | "ENCODE" =>
    let first ← need "a name" anyName?
    let _ ← iterate first fun _ => do
      if ← symbol "." then return ← anyName? else return none
    other
  | "COMMENT" | "PATH" =>
    let _ ← need "a string" stringName?
    other
  | "TTL" | "EPHEMERAL" => let _ ← g.bitwise; other
  | "ON" =>
    if ← word "UPDATE" then
      let _ ← atom? g
    else
      let _ ← anyName?
    other
  | "LIKE" =>
    let _ ← tablePath g false
    let _ ← iterate () fun _ => do
      match ← oneOf ["INCLUDING", "EXCLUDING"] with
      | some _ =>
        let _ ← anyName?
        return some ()
      | none => return none
    other
  | "PERIOD" =>
    if ← word "FOR SYSTEM_TIME" then
      let _ ← inParens (separated anyName?)
      other
    else return none
  | "EXCLUDE" => indexOptions g; other
  | "PROJECTION" =>
    if g.dialect == .snowflake then policy g w
    else
      let _ ← anyName?
      if ← symbol "(" then skipGroup
    other
  | "MASKING" | "TAG" => policy g w; other
  | "KEY" | "INDEX" | "FULLTEXT" | "SPATIAL" => keyBody g w; other
  | "WITH" =>
    if g.dialect == .snowflake then
      match ← oneOf ["MASKING", "PROJECTION", "TAG"] with
      | some w => policy g w
      | none => fail "a policy"
    else
      let _ ← inParens (separated (setting? g))
    other
  | "CLUSTERED" | "NONCLUSTERED" | "COMPRESS" | "INLINE" | "OPTIONS" | "CODEC" =>
    if ← symbol "(" then skipGroup
    other
  | _ => return none

def rule? (g : Grammar) (columns : Parse (Option (List SchemaItem))) (starts : List String) :
    Parse (Option AnyRule) := backtrack do
  match ← oneOf starts with
  | some w => ruleBody? g columns w
  | none => return none

/-- A column: its name, its type and its rules. -/
def columnDeclaration? (g : Grammar) (columns : Parse (Option (List SchemaItem))) :
    Parse (Option SchemaItem) := do
  let first ← do
    match ← literal? g with
    | some e => pure (some e.wordText)
    | none =>
      let startsValue ← nextIs fun t => t.word?.any fun u =>
        ["ANY", "CASE", "IF"].contains u || (Function.momentWords g.dialect).contains u
      match ← if startsValue then call? g else pure none with
      | some _ => pure (some "")
      | none => pure ((← anyName?).map (·.text))
  match first with
  | none => return none
  | some name =>
    let type ← g.dataType true
    let behindType := type.isSome && (← atWord "AS") && (← secondIs (·.isSymbol "("))
    let computed ← do
      if behindType || type.isNone && (← atWord "AS") then word "AS"
      else pure (← oneOf ["ALIAS", "MATERIALIZED"]).isSome
    if computed then
      let _ ← g.condition
      let _ ← oneOf ["PERSISTED", "STORED", "VIRTUAL"]
      -- Behind a type and a formula `NOT NULL` is a rule of the column, otherwise a part of the
      -- formula.
      unless behindType do
        let _ ← words ["NOT", "NULL"]
    let starts := columnRuleWords g.dialect
    let formula : List ColumnRule := if computed then [.other] else []
    let rules ← iterate formula fun rules => do
      let named ← word "CONSTRAINT"
      if named then
        let _ ← anyName?
      if g.dialect.likeMysql && (← word "KEY") then return some (.primaryKey :: rules)
      match ← rule? g columns starts with
      | some (.column r) => return some (r :: rules)
      | some (.table _) => return some (.other :: rules)
      | none => return if named then some (.other :: rules) else none
    return some (.ofColumn ⟨name, type, rules.reverse⟩)

def AnyRule.toTableRule : AnyRule → TableRule
  | .table r => r
  | .column _ => .other

/-- An item of a column list, with lists inside lists up to a depth. -/
def schemaItem? (g : Grammar) : Nat → Parse (Option SchemaItem)
  | 0 => fail "less nesting"
  | depth + 1 => do
    let columns := schemaList? (schemaItem? g depth)
    if ← word "CONSTRAINT" then
      let _ ← anyName?
      let rules ← iterate ([] : List TableRule) fun rules => do
        match ← rule? g columns (columnRuleWords g.dialect) with
        | some r => return some (r.toTableRule :: rules)
        | none =>
          if ← atCall g.dialect then
            let _ ← call g false
            return some (.other :: rules)
          else return none
      if rules.isEmpty then fail "a rule"
      return some (.rules rules.reverse)
    match ← rule? g columns (tableRuleWords g.dialect) with
    | some r => return some (.rules [r.toTableRule])
    | none => columnDeclaration? g columns

def tableSchema? (g : Grammar) : Parse (Option (List SchemaItem)) := schemaList? (schemaItem? g 8)


end QueryFlow.Sql.Parse
