import QueryFlow.Sql.DataType.Spelling
import QueryFlow.Sql.Literal
import QueryFlow.Sql.Parser.Grammar
import QueryFlow.Sql.Phrase

/-!
Reading calls that make rows out of a document. They say where the rows stand in the document and
which columns the rows have. The columns are kept as text: nothing in them refers to other tables.
-/

namespace QueryFlow.Sql.Parse

open QueryFlow.Sql

def shownString? (d : Dialect) : Parse (Option String) := do
  match ← peek? with
  | some ⟨.string s, _⟩ =>
    skip 1
    return some (Literal.quote d s)
  | _ => return none

/-- The text with a blank in front of it, or nothing. -/
def spaced (s : Option String) : String := (s.map (" " ++ ·)).getD ""

/-- The type of a column, unless a word comes next that says where the column is found. -/
def documentType (g : Grammar) : Parse String := do
  if ← nextIs fun t => t.isWord "PATH" || t.isWord "FORMAT" then return ""
  return spaced ((← g.dataType false).map (DataType.render g.dialect))

/-- Where a column is found in the document. -/
def columnPath (g : Grammar) : Parse String := do
  if ← word "PATH" then
    return ((← shownString? g.dialect).map (" PATH " ++ ·)).getD ""
  else return ""

def documentColumns (g : Grammar) : Nat → Parse String
  | 0 => fail "less nesting"
  | fuel + 1 => do
    let _ ← word "COLUMNS"
    let opened ← symbol "("
    let columns ← separated do
      if ← word "NESTED" then
        let path ← columnPath g
        return some ("NESTED" ++ path ++ " " ++ (← documentColumns g fuel))
      else
        match ← anyName? with
        | none => return none
        | some n =>
          let counted ← words ["FOR", "ORDINALITY"]
          let type ← documentType g
          let isDocument ← words ["FORMAT", "JSON"]
          let path ← columnPath g
          return some (n.render g.dialect ++ type ++ (if isDocument then " FORMAT JSON" else "")
            ++ path
            ++ if counted then " FOR ORDINALITY" else "")
    if opened then expect ")"
    return "COLUMNS(" ++ ", ".intercalate columns ++ ")"

/-- What happens on some occasion, where a word says it. -/
def outcome (on : String) : Parse String := do
  if ← words ["ERROR", "ON", on] then return " ERROR ON " ++ on
  else if ← words ["NULL", "ON", on] then return " NULL ON " ++ on
  else return ""

/-- `JSON_TABLE(x, path COLUMNS(...))` behind its opening parenthesis. -/
def rowsOfJson (g : Grammar) : Parse Expr := do
  let x ← need "a document" g.bitwise
  let isDocument ← words ["FORMAT", "JSON"]
  let path ← if ← symbol "," then shownString? g.dialect else pure none
  let error ← outcome "ERROR"
  let empty ← outcome "EMPTY"
  let columns ← documentColumns g ((← rest).length + 1)
  let tail := ((path.map (", " ++ ·)).getD "") ++ error ++ empty ++ " " ++ columns ++ ")"
  make (.phrase ("JSON_TABLE($1" ++ (if isDocument then " FORMAT JSON" else "")
    ++ Phrase.literal tail)) [x]

/-- `OPENJSON(x, path) WITH (...)` behind its first opening parenthesis; the last closing one stays.
-/
def openedJson (g : Grammar) : Parse Expr := do
  let x ← need "a document" g.bitwise
  let path ← if ← symbol "," then shownString? g.dialect else pure none
  let head := "OPENJSON($1" ++ Phrase.literal ((path.map (", " ++ ·)).getD "") ++ ")"
  if (← atSymbol ")") && (← secondIs (·.isWord "WITH")) then
    skip 2
    expect "("
    let columns ← separated do
      match ← anyName? with
      | none => return none
      | some n =>
        let type := ((← g.dataType false).map (DataType.render g.dialect)).getD ""
        let path ← shownString? g.dialect
        let isDocument ← words ["AS", "JSON"]
        return some (n.render g.dialect ++ " " ++ type ++ spaced path
          ++ if isDocument then " AS JSON" else "")
    make (.phrase (head ++ Phrase.literal (" WITH (" ++ ", ".intercalate columns ++ ")"))) [x]
  else make (.phrase head) [x]

/-- Names of spaces of names, behind their opening parenthesis. -/
def nameSpaces (d : Dialect) : Parse (List String) := separated do
  if ← word "DEFAULT" then
    return (← shownString? d).map ("DEFAULT " ++ ·)
  match ← shownString? d with
  | none => return none
  | some s =>
    if ← word "AS" then
      let n ← need "a name" anyName?
      return some (s ++ " AS " ++ n.render d)
    else return some s

def elementColumn? (g : Grammar) : Parse (Option String) := do
  match ← anyName? with
  | none => return none
  | some n =>
    let shown := n.render g.dialect
    if ← words ["FOR", "ORDINALITY"] then return some (shown ++ " FOR ORDINALITY")
    let type ← documentType g
    let rules ← iterate "" fun rules => do
      if ← atWord "PATH" then return some (rules ++ (← columnPath g))
      else if ← word "DEFAULT" then
        return some (rules ++ ((← shownString? g.dialect).map (" DEFAULT " ++ ·)).getD "")
      else if ← words ["NOT", "NULL"] then return some (rules ++ " NOT NULL")
      else return none
    return some (shown ++ type ++ rules)

/-- `XMLTABLE(path PASSING x COLUMNS ...)` behind its opening parenthesis. -/
def rowsOfElements (g : Grammar) : Parse Expr := do
  let spaces ← do
    if (← atWord "XMLNAMESPACES") && (← secondIs (·.isSymbol "(")) then
      skip 2
      let spaces ← nameSpaces g.dialect
      expect ")"
      let _ ← symbol ","
      pure ("XMLNAMESPACES(" ++ ", ".intercalate spaces ++ "), ")
    else pure ""
  let path := (← shownString? g.dialect).getD ""
  let passing ← do
    if ← word "PASSING" then
      let _ ← words ["BY", "VALUE"]
      commaList g.unary
    else pure []
  let byReference ← words ["RETURNING", "SEQUENCE", "BY", "REF"]
  let columns ← if ← word "COLUMNS" then separated (elementColumn? g) else pure []
  make (.phrase ("XMLTABLE(" ++ Phrase.literal (spaces ++ path)
    ++ (if passing.isEmpty then "" else " PASSING @1")
    ++ (if byReference then " RETURNING SEQUENCE BY REF" else "")
    ++ (if columns.isEmpty then "" else " COLUMNS " ++ Phrase.literal (", ".intercalate columns))
    ++ ")")) passing

end QueryFlow.Sql.Parse
