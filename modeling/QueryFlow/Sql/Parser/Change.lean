import QueryFlow.Sql.Parser.Declaration

/-!
Reading statements that change the rows of a table. Nothing of them is kept, but every part has to
be of the right form.
-/

namespace QueryFlow.Sql.Parse

open QueryFlow.Sql

def returning (g : Grammar) : Parse Unit := do
  if ← word "RETURNING" then
    let _ ← commaList g.expression
    if ← word "INTO" then
      let _ ← tablePath g false
    return ()

/-- A clause of a query behind a changing statement, when it starts with this word. -/
def clauseAt (g : Grammar) (w : String) : Parse Unit := do
  if ← atWord w then
    let _ ← clause? g
    return ()

/-- An item with its joins in a changing statement; `refused` are words that are no alias. -/
def changedItem (g : Grammar) (refused : List String) : Parse Unit := do
  if (← atSymbol "(") || (← atWord "LATERAL") then
    let _ ← need "a table" g.item
  else
    let _ ← word "ONLY"
    let _ ← tablePath g true
    let _ ← symbol "*"
    let _ ← itemAlias? g (joinWordsOf g.dialect ++ refused)
    let _ ← tableHints g
  let _ ← joins g
  return ()

/-- What is done with a row that is there already. -/
def conflictAction (g : Grammar) : Parse Unit := do
  let updates ← do
    if ← word "DO" then
      match ← oneOf ["NOTHING", "UPDATE"] with
      | some w => pure (w == "UPDATE")
      | none => fail "an action"
    else
      match ← oneOf ["ABORT", "FAIL", "IGNORE", "REPLACE", "ROLLBACK", "UPDATE"] with
      | some w => pure (w == "UPDATE")
      | none => fail "an action"
  if updates then
    let _ ← word "SET"
    let _ ← commaList g.equality

/-- What an insertion does with rows that are there already. -/
def conflict (g : Grammar) : Parse Unit := do
  let listed ← words ["ON", "CONFLICT"]
  if listed then
    if ← words ["ON", "CONSTRAINT"] then
      let _ ← anyName?
    else if ← atSymbol "(" then
      let _ ← inParens (separated (indexItem? g))
  if listed || (← words ["ON", "DUPLICATE", "KEY"]) then
    clauseAt g "WHERE"
    conflictAction g
    clauseAt g "WHERE"

def insertBody (g : Grammar) : Parse Unit := do
  hint
  let _ ← word "OVERWRITE"
  let _ ← word "IGNORE"
  let _ ← word "LOCAL"
  if ← word "OR" then
    let _ ← oneOf ["ABORT", "FAIL", "IGNORE", "REPLACE", "ROLLBACK"]
  let _ ← word "INTO"
  let _ ← word "TABLE"
  if ← word "FUNCTION" then
    let _ ← need "a function" (atom? g)
  else
    let _ ← tablePath g false
    if ← word "PARTITION" then
      expect "("
      skipGroup
    let _ ← tableSchema? g
    if ← atWord "AS" then
      let _ ← tableAlias? g
  returning g
  let _ ← words ["BY", "NAME"]
  ifExists
  if ← words ["REPLACE", "WHERE"] then
    let _ ← g.condition
  let _ ← words ["DEFAULT", "VALUES"]
  if ← word "SET" then
    let _ ← commaList g.equality
  match ← values? g with
  | some _ => pure ()
  | none =>
    let _ ← fillingQuery? g
  conflict g
  returning g
  if ← word "TABLE" then
    let _ ← need "a table" g.item

def updateBody (g : Grammar) : Parse Unit := do
  hint
  changedItem g ["SET"]
  iterate () fun _ => do
    if ← word "SET" then
      let _ ← commaList g.equality
      return some ()
    else if ← word "FROM" then
      let _ ← need "a table" g.item
      let _ ← joins g
      return some ()
    else if ← atWord "RETURNING" then
      returning g
      return some ()
    else if (← atWord "WHERE") || (← atWord "ORDER BY") || (← atWord "LIMIT") then
      let _ ← clause? g
      return some ()
    else return none

def deleteBody (g : Grammar) : Parse Unit := do
  hint
  unless ← atWord "FROM" do
    let _ ← commaList g.item
  returning g
  if ← word "FROM" then
    let _ ← need "a table" g.item
    let _ ← joins g
  if ← word "USING" then
    let _ ← commaList do
      match ← g.item with
      | some e => return some (addingAll e (← joins g))
      | none => return none
  clauseAt g "WHERE"
  returning g
  clauseAt g "ORDER BY"
  clauseAt g "LIMIT"

/-- What is done with a row when two tables are merged; `THEN` has been read. -/
def mergeAction (g : Grammar) : Parse Unit := do
  match ← oneOf ["INSERT", "UPDATE", "DELETE"] with
  | some "INSERT" =>
    unless (← symbol "*") || (← word "ROW") do
      if ← atSymbol "(" then
        let _ ← inParens (commaList g.expression)
      if ← word "VALUES" then
        let _ ← valuesRow? g
    clauseAt g "WHERE"
  | some "UPDATE" =>
    unless ← symbol "*" do
      if ← word "SET" then
        let _ ← commaList g.equality
    clauseAt g "WHERE"
  | some _ => pure ()
  | none => conflictAction g

def mergeBody (g : Grammar) : Parse Unit := do
  let _ ← word "INTO"
  let _ ← need "a table" g.item
  let _ ← word "USING"
  let _ ← need "a table" g.item
  if ← word "ON" then
    let _ ← need "a condition" g.condition
  unless ← atWord "WHEN" do fail "WHEN"
  iterate () fun _ => do
    unless ← word "WHEN" do return none
    let _ ← word "NOT"
    let _ ← word "MATCHED"
    unless ← words ["BY", "TARGET"] do
      let _ ← words ["BY", "SOURCE"]
    if ← word "AND" then
      let _ ← g.condition
    let _ ← word "THEN"
    mergeAction g
    return some ()
  returning g

end QueryFlow.Sql.Parse
