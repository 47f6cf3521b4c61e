import QueryFlow.Sql.Parser.Operators

/-!
Reading FROM items and joins. A table is a path of names; a query, a list of values, a function or
something else in parentheses may stand in its place. Joins without a condition may take the
condition that follows later joins, which then stand inside them.
-/

namespace QueryFlow.Sql.Parse

open QueryFlow.Sql

/-- A column of an item alias, and the text of its type when it has one. -/
def aliasColumn? (g : Grammar) : Parse (Option (Name × String)) := do
  match ← anyName? with
  | none => return none
  | some n =>
    let _ ← word "AS"
    let type ← attempt (g.dataType true)
    return some (n, (type.map fun t => t.render g.dialect).getD "")

/-- The name given to a FROM item, with names for its columns. Words in `refused` are no name unless
`AS` stands in front of them. -/
def itemAlias? (g : Grammar) (refused : List String) : Parse (Option ItemAlias) := do
  let explicit ← word "AS"
  let n ← if explicit then anyNameOrPlace? g.dialect else do
    match ← nameExcept g.dialect refused with
    | some n => pure (some n)
    | none => stringName?
  let columns ← backtrack do
    unless ← symbol "(" do return none
    let names ← separated (aliasColumn? g)
    if names.isEmpty then return none
    expect ")"
    return some names
  match n, columns with
  | none, none => return none
  | n, columns =>
    let columns := columns.getD []
    return some ⟨n, columns.map (·.1), columns.map (·.2)⟩

def tableAlias? (g : Grammar) : Parse (Option ItemAlias) := itemAlias? g (joinWordsOf g.dialect)

def withAlias (shown : Option ItemAlias) : Form → Form
  | .table path _ => .table path shown
  | .tableFunction _ => .tableFunction shown
  | .values _ => .values shown
  | .subquery _ => .subquery shown
  | .lateral _ => .lateral shown
  | .unnest _ o => .unnest shown o
  | f => f

def aliasOf? (e : Expr) : Option ItemAlias :=
  match e.form with
  | .table _ a | .tableFunction a | .values a | .subquery a | .lateral a | .unnest a _ => a
  | _ => none

/-- A node with one more operand at the end. -/
def adding (e : Expr) (x : Expr) : Expr :=
  match e with
  | .node f n xs => .node f n (xs ++ [x])

def addingAll (e : Expr) (more : List Expr) : Expr := more.foldl adding e

/-- How many rows a sample takes: the words around a number of them. A bare number counts rows in
some dialects and parts of a hundred in others. -/
def sampleWord (d : Dialect) : Option String → String
  | none => if samplesParts d then "" else " ROWS"
  | some "ROWS" => if d.likePostgres || d == .presto || d == .trino then "" else " ROWS"
  | some _ => if samplesParts d then "" else " PERCENT"
where
  samplesParts : Dialect → Bool
    | .postgres | .redshift | .presto | .trino | .snowflake => true
    | _ => false

def sample? (g : Grammar) : Parse (Option Expr) := do
  unless (← word "TABLESAMPLE") || (← words ["USING", "SAMPLE"]) do return none
  let method ← do
    if (← nextIs fun t => t.word?.isSome) then anyWord? else pure none
  let opened ← symbol "("
  let opening := "TABLESAMPLE " ++ ((method.map (· ++ " ")).getD "") ++ "("
  let startsNumber ← nextIs fun t => match t.lexeme with
    | .number _ => true
    | _ => false
  let size ← do
    if startsNumber then
      match ← attempt (factor? g) with
      | some e => pure (some e)
      | none => literal? g
    else if ← atWord "BUCKET" then pure none
    else atom? g
  let (closing, operands) ← do
    if ← word "BUCKET" then
      let taken ← literal? g
      let _ ← words ["OUT", "OF"]
      let parts ← literal? g
      let field ← if ← word "ON" then atom? g else pure none
      let body : Expr := .of (.phrase (if field.isSome then "BUCKET $1 OUT OF $2 ON $3"
        else "BUCKET $1 OUT OF $2")) (taken.toList ++ parts.toList ++ field.toList)
      pure ("", [body])
    else
      let unit ← do
        match ← oneOf ["PERCENT", "ROWS"] with
        | some w => pure (some w)
        | none => if ← symbol "%" then pure (some "PERCENT") else pure none
      pure (sampleWord g.dialect unit, size.toList)
  if opened then expect ")"
  let seed ← oneOf ["SEED", "REPEATABLE"]
  let seedValue ← if seed.isSome then inParens (literal? g) else pure none
  let word := match g.dialect with
    | .postgres | .redshift | .duckdb => "REPEATABLE"
    | _ => "SEED"
  let tail := match seedValue with
    | some v => " " ++ word ++ " (" ++ v.nameText ++ ")"
    | none => ""
  return some (← make (.sample opening (closing ++ ")" ++ tail)) operands)

/-- The state of a table at a time, or of a version, when it is asked for. -/
def version? (g : Grammar) : Parse (Option Expr) := do
  match ← oneOf ["FOR SYSTEM_TIME", "FOR TIMESTAMP", "FOR VERSION", "TIMESTAMP AS OF",
      "VERSION AS OF"] with
  | none => return none
  | some w =>
    let kind := if w == "FOR VERSION" || w == "VERSION AS OF" then "VERSION"
      else if g.dialect == .bigquery || g.dialect == .tsql then "SYSTEM_TIME" else "TIMESTAMP"
    let opening := (if g.dialect.likeHive then "" else "FOR ") ++ kind ++ " "
    match ← oneOf ["FROM", "BETWEEN"] with
    | some kind =>
      let first ← g.bitwise
      let _ ← oneOf ["TO", "AND"]
      let last ← g.bitwise
      return some (.of (.version (opening ++ kind ++ " ($1, $2)")) (first.toList ++ last.toList))
    | none =>
      if ← words ["CONTAINED", "IN"] then
        let xs ← inParens (commaList g.bitwise)
        return some (.of (.version (opening ++ "CONTAINED IN $1")) [.of .tuple xs])
      else if ← word "ALL" then return some (.of (.version (opening ++ "ALL ")))
      else
        let _ ← words ["AS", "OF"]
        let moment ← g.unary
        return some (.of (.version (opening ++ "AS OF $1")) moment.toList)

/-- An earlier state of a table, in the words of some dialects, which is not kept. -/
def earlierState : Parse Unit := do
  if ← atWord "CHANGES" then
    match ← rest with
    | _ :: a :: b :: _ =>
      if a.isSymbol "(" && b.isWord "INFORMATION" then
        skip 2
        skipGroup
    | _ => pure ()
  let _ ← iterate () fun _ => do
    let starts := (← atWord "AT") || (← atWord "BEFORE") || (← atWord "END")
    let asked := ((← rest).drop 1).take 4
    match asked with
    | a :: b :: c :: _ =>
      let kind := (b.word?.map fun w =>
        ["OFFSET", "STATEMENT", "STREAM", "TIMESTAMP", "VERSION"].contains w).getD false
      if starts && a.isSymbol "(" && kind && c.isSymbol "=>" then
        skip 2
        skipGroup
        return some ()
      else return none
    | _ => return none
  return ()

/-- A value that becomes a column of a turned table, with a name for the column. -/
def pivotValue? (g : Grammar) : Parse (Option Expr) := do
  match ← queryOrExpression g false with
  | none => return none
  | some e =>
    let _ ← word "AS"
    match ← g.bitwise with
    | none => return some e
    | some (.node (.column [n]) notes _) =>
      return some (← make (.phrase "$1 AS $2") [e, .node (.name n) notes []])
    | some n => return some (← make (.phrase "$1 AS $2") [e, n])

/-- The values of one column that become columns of a turned table. -/
def pivotField? (g : Grammar) : Parse (Option Expr) := attempt do
  match ← g.unary with
  | none => return none
  | some x =>
    expectWord "IN"
    if ← symbol "(" then
      if ← word "ANY" then
        let orders ← if ← word "ORDER BY" then orderItems g else pure []
        expect ")"
        let pattern := if orders.isEmpty then "$1 IN (ANY)" else "$1 IN (ANY ORDER BY @2)"
        return some (← make (.phrase pattern) (x :: orders))
      let xs ← commaList (pivotValue? g)
      expect ")"
      return some (← make .inList (x :: xs))
    else
      let n ← name g.dialect
      return some (← make .inField [x, .of (.name n)])

/-- The gaps of so many operands from the one with this number on, with a separator between them. -/
def gaps (start count : Nat) (separator : String) : String :=
  separator.intercalate ((List.range count).map fun i => "$" ++ toString (start + i))

/-- A table turned so that values become columns, or columns become values. -/
def pivot? (g : Grammar) : Parse (Option Expr) := backtrack do
  let turned ← oneOf ["PIVOT", "UNPIVOT"]
  match turned with
  | none => return none
  | some w =>
    let back := w == "UNPIVOT"
    let nulls ← do
      if back && (← words ["INCLUDE", "NULLS"]) then pure " INCLUDE NULLS "
      else if back && (← words ["EXCLUDE", "NULLS"]) then pure " EXCLUDE NULLS "
      else pure ""
    unless ← symbol "(" do return none
    let one : Parse (Option Expr) := do
      if back then return ← g.unary
      unless ← atCall g.dialect do return none
      let e ← call g false
      let explicit ← word "AS"
      match ← (if explicit then anyName? else name? g.dialect) with
      | some n => return some (← make (.alias n) [e])
      | none => return some e
    let values ← commaList one
    if values.isEmpty then fail "an aggregate"
    expectWord "FOR"
    let fields ← iterate ([] : List Expr) fun fields => do
      return (← pivotField? g).map (· :: fields)
    let fields := fields.reverse
    let onNull ← if ← words ["DEFAULT", "ON", "NULL"] then do
        pure (some (← inParens (need "a value" g.bitwise)))
      else pure none
    let groups ← if ← word "GROUP BY" then commaList g.condition else pure []
    expect ")"
    let more := (← atWord "PIVOT") || (← atWord "UNPIVOT")
    let shown ← if more then pure none else tableAlias? g
    let aliasText := match shown with
      | some ⟨some n, columns, _⟩ =>
        " AS " ++ n.render g.dialect ++ (if columns.isEmpty then ""
          else "(" ++ ", ".intercalate (columns.map (Name.render g.dialect)) ++ ")")
      | _ => ""
    let at1 := values.length + 1
    let at2 := at1 + fields.length
    let at3 := at2 + onNull.toList.length
    let pattern := w ++ nulls ++ "(" ++ gaps 1 values.length ", " ++ " FOR "
      ++ gaps at1 fields.length " " ++ (if onNull.isSome then " DEFAULT ON NULL ($"
        ++ toString at2 ++ ")" else "")
      ++ (if groups.isEmpty then "" else " GROUP BY " ++ gaps at3 groups.length ", ") ++ ")"
      ++ Phrase.literal aliasText
    let pattern := if g.dialect == .postgres then "" else pattern
    return some (← make (.phrase pattern) (values ++ fields ++ onNull.toList ++ groups))

def pivots (g : Grammar) : Parse (List Expr) := do
  let found ← iterate ([] : List Expr) fun found => do
    return (← pivot? g).map (· :: found)
  return found.reverse

def valuesRow? (g : Grammar) : Parse (Option Expr) := do
  let value : Parse (Option Expr) := do
    if ← word "DEFAULT" then return some (← make (.words "DEFAULT"))
    else g.expression
  if ← symbol "(" then
    let xs ← commaList value
    expect ")"
    return some (← make .tuple xs)
  else
    match ← g.expression with
    | some e => return some (← make .tuple [e])
    | none => return none

/-- A list of values, with or without parentheses around it. -/
def values? (g : Grammar) : Parse (Option Expr) := do
  let wrapped := (← atSymbol "(") && (← secondIs (·.isWord "VALUES"))
  if wrapped then skip 2
  else unless ← word "VALUES" do return none
  let rows ← commaList (valuesRow? g)
  if rows.isEmpty then fail "a row of values"
  let inner ← tableAlias? g
  if wrapped then expect ")"
  let shown ← if inner.isSome then pure inner else tableAlias? g
  return some (← make (.values shown) rows)

def unnest? (g : Grammar) : Parse (Option Expr) := do
  unless (← atWord "UNNEST") && (← secondIs (·.isSymbol "(")) do return none
  skip 2
  let xs ← commaList g.equality
  expect ")"
  let numbered ← words ["WITH", "ORDINALITY"]
  let shown ← tableAlias? g
  let _ ← if !numbered && (← words ["WITH", "OFFSET"]) then do
      let _ ← word "AS"
      let _ ← nameExcept g.dialect (joinWordsOf g.dialect)
      pure ()
    else pure ()
  if xs.isEmpty then fail "a value"
  return some (← make (.unnest shown numbered) xs)

def lateral? (g : Grammar) : Parse (Option Expr) := do
  let applied ← if ← words ["CROSS", "APPLY"] then pure true else words ["OUTER", "APPLY"]
  unless applied || (← word "LATERAL") do return none
  let query ← g.itemQuery
  let view ← if applied then pure false else word "VIEW"
  if view then let _ ← word "OUTER"
  let inner ← do
    match query with
    | some q => pure q
    | none =>
      let part : Parse Expr := do
        match ← unnest? g with
        | some u => return u
        | none =>
          if ← atCall g.dialect then call g false
          else
            let n ← name g.dialect
            return .of (.name n)
      let first ← part
      iterate first fun e => do
        if ← symbol "." then return some (.of .dot [e, ← part]) else return none
  if view then
    let n ← name? g.dialect
    let columns ← if ← word "AS" then separated (name? g.dialect) else pure []
    return some (← make (.lateral (some { name := n, columns })) [inner])
  else
    match aliasOf? inner with
    | some a =>
      let bare := match inner with
        | .node f ns xs => .node (withAlias none f) ns xs
      return some (← make (.lateral (some a)) [bare])
    | none =>
      let _ ← words ["WITH", "ORDINALITY"]
      let shown ← tableAlias? g
      return some (← make (.lateral shown) [inner])

/-- A part of the path of a table: a call, a name, a string or a parameter. -/
inductive TablePart where
  | name (name : Name)
  | call (e : Expr)

/-- A name that goes on behind a dash, which bigquery allows. -/
def dashedName (d : Dialect) (n : Name) : Parse Name := do
  if d != .bigquery || n.quoted then return n
  iterate n fun n => do
    match ← rest with
    | a :: b :: _ =>
      if a.isSymbol "-" then
        match b.lexeme with
        | .word s _ | .number s =>
          skip 2
          return some (.bare (n.text ++ "-" ++ s))
        | _ => return none
      else return none
    | _ => return none

def tablePart? (g : Grammar) (functions : Bool) : Parse (Option TablePart) := do
  if functions && (← atCall g.dialect) then
    return some (.call (← call g false))
  match ← name? g.dialect with
  | some n => return some (.name (← dashedName g.dialect n))
  | none =>
    match ← stringName? with
    | some n => return some (.name n)
    | none =>
      match ← placeholder? g.dialect (g.dataType false) with
      | some (.node (.placeholder (some s)) ..) => return some (.name (.bare s))
      | some (.node .parameter _ [x]) => return some (.name (.bare (x.nameText)))
      | _ => return none

/-- A path whose names hold points is split at them, where the dialect reads quoted paths so. -/
def splitPath (d : Dialect) (path : List Name) : List Name :=
  if d == .bigquery && path.any fun n => n.text.toList.contains '.' then
    ((".".intercalate (path.map (·.text))).splitOn ".").map fun s => .inQuotes s
  else path

def tablePath (g : Grammar) (functions : Bool) : Parse Expr := do
  let first ← need "a table name" (tablePart? g functions)
  let (path, last) ← iterate (([], first) : List Name × TablePart) fun (path, last) => do
    unless ← symbol "." do return none
    let before := match last with
      | .name n => path ++ [n]
      | .call _ => path
    match ← tablePart? g functions with
    | some p => return some (before, p)
    | none => return some (before, .name (.bare ""))
  match last with
  | .name n =>
    if n.text.isEmpty && !n.quoted then fail "a table name"
    let whole := splitPath g.dialect (path ++ [n])
    match g.dialect, whole.reverse with
    | .bigquery, view :: schema :: before =>
      if Text.upper schema.text == "INFORMATION_SCHEMA" then
        let joined : Name :=
          { text := schema.text ++ "." ++ view.text, quoted := view.quoted || schema.quoted }
        make (.table (before.reverse ++ [joined]) (some { name := some view }))
      else make (.table whole none)
    | _, _ => make (.table whole none)
  | .call e =>
    let e := path.foldr (fun n e => Expr.of .dot [.of (.name n), e]) e
    make (.tableFunction none) [e]

/-- Dialects that keep hints about how to read a table. -/
def keepsHints : Dialect → Bool
  | .ansi | .mysql | .starrocks | .tsql => true
  | _ => false

/-- Hints about how to read a table, where the dialect keeps them. -/
def tableHints (g : Grammar) : Parse (List Expr) := do
  let hint (text : String) : List Expr :=
    if keepsHints g.dialect then [.of (.otherClause text)] else []
  if (← atWord "WITH") && (← secondIs (·.isSymbol "(")) then
    skip 2
    let one : Parse (Option Expr) := do
      if ← atCall g.dialect then return some (← call g false)
      return (← anyName?).map fun n => .of (.words n.text)
    let xs ← commaList one
    expect ")"
    if keepsHints g.dialect then
      return [← make (.phrase ("WITH (" ++ gaps 1 xs.length ", " ++ ")")) xs]
    else return []
  else
    let found ← iterate ([] : List Expr) fun found => do
      match ← oneOf (if g.dialect.likeMysql then ["FORCE", "IGNORE", "USE"] else ["USE"]) with
      | none => return none
      | some w =>
        let _ ← oneOf ["INDEX", "KEY"]
        let purpose ← if ← word "FOR" then anyWord? else pure none
        let names ← inParens (separated (name? g.dialect))
        let target := (purpose.map (" FOR " ++ ·)).getD ""
        let text := w ++ " INDEX" ++ target ++ " ("
          ++ ", ".intercalate (names.map (Name.render g.dialect)) ++ ")"
        return some (hint text ++ found)
    return found.reverse

/-- A FROM item of any kind, without joins. -/
def item? (g : Grammar) : Parse (Option Expr) := do
  if let some e ← lateral? g then return some e
  if let some e ← unnest? g then return some e
  if let some e ← values? g then return some e
  if let some e ← g.itemQuery then
    return some (addingAll e (← pivots g))
  let only ← if (← atWord "ONLY") && !(← secondIs (·.isSymbol ".")) then word "ONLY" else pure false
  let e ← do
    if ← words ["ROWS", "FROM"] then
      let calls ← inParens (commaList g.item)
      make (.table [] none) [.of .rowsFrom calls]
    else tablePath g true
  let e ← match e.form with
    | .table .. => brackets g e
    | _ => pure e
  earlierState
  let _ ← symbol "*"
  let turned ← pivots g
  let version ← if g.dialect == .bigquery then pure none else version? g
  let early ← if g.dialect.likeHive && (← atWord "TABLESAMPLE") then sample? g else pure none
  let e ← do
    match ← tableAlias? g with
    | some a =>
      match e with
      | .node f n xs => pure (.node (withAlias (some a) f) n xs)
    | none => pure e
  let e ← settle e
  let hints ← tableHints g
  let turnedLate ← pivots g
  let late ← if early.isNone && (← atWord "TABLESAMPLE") then sample? g else pure none
  let version ← if version.isNone then version? g else pure version
  let e := addingAll e ((if only then [.of (.otherClause "ONLY")] else []) ++ version.toList
    ++ hints ++ turned ++ turnedLate ++ early.toList ++ late.toList)
  if ← words ["WITH", "ORDINALITY"] then
    let a ← tableAlias? g
    match e with
    | .node f n xs =>
      return some (.node (withAlias a f) n (xs ++ [.of (.otherClause "WITH ORDINALITY")]))
  if g.dialect == .clickhouse && (← word "FINAL") then return some (← make .final [e])
  return some e

/-- The words in front of `JOIN`: manner, side and kind. -/
def joinParts (d : Dialect) : Parse (Option String × Option JoinSide × Option String) := do
  let kinds := ["ANTI", "CROSS", "INNER", "OUTER", "SEMI", "STRAIGHT_JOIN"]
  let kinds := if d == .clickhouse then kinds ++ ["ANY", "ASOF", "ARRAY"] else kinds
  let side? : Parse (Option JoinSide) := do
    match ← oneOf ["LEFT", "RIGHT", "FULL"] with
    | some "LEFT" => return some .left
    | some "RIGHT" => return some .right
    | some _ => return some .full
    | none => return none
  if d == .clickhouse then
    let _ ← word "GLOBAL"
    let before ← oneOf kinds
    let side ← side?
    let after ← oneOf kinds
    return (none, side, after <|> before)
  else
    let manner ← oneOf (["ASOF", "NATURAL"] ++ if d == .duckdb then ["POSITIONAL"] else [])
    let side ← side?
    let kind ← oneOf kinds
    return (manner, side, kind)

/-- The columns that two items share, as `USING` names them. -/
def sharedColumns (g : Grammar) : Parse (List Name) := do
  let one : Parse (Option Name) := do
    match ← atom? g with
    | none => return none
    | some e =>
      match ← columnTail g e with
      | .node (.column path) .. => return path.getLast?
      | e => return some (.bare (e.nameText))
  if ← symbol "(" then
    let names ← separated one
    expect ")"
    return names
  else separated one

/-- Dialects in which a comma joins no looser than the word does. -/
def commaIsCrossJoin : Dialect → Bool
  | .bigquery | .clickhouse | .databricks | .hive | .spark | .sqlite => true
  | _ => false

/-- Dialects that take a join without a condition for one whose condition is true. -/
def bareJoinIsTrue : Dialect → Bool
  | .databricks | .hive | .spark | .sqlite => true
  | _ => false

/-- The condition behind a join, `ON` or `USING`. -/
def joinCondition? (g : Grammar) : Parse (Option (Option Expr × List Name)) := do
  if ← word "ON" then return some (← g.condition, [])
  else if ← word "USING" then return some (none, ← sharedColumns g)
  else return none

/-- Joins that stand inside a join, because the condition of the outer one comes behind them. -/
def nestedJoins (g : Grammar) : Parse (List Expr × Option Expr × List Name) := do
  let start ← get
  let inner ← g.joins
  if inner.isEmpty then
    set start
    return ([], none, [])
  match ← joinCondition? g with
  | some (on, shared) => return (inner, on, shared)
  | none =>
    set start
    return ([], none, [])

def join? (g : Grammar) : Parse (Option Expr) := do
  if ← symbol "," then
    match ← attempt g.item with
    | some e =>
      let kind := if commaIsCrossJoin g.dialect then some "CROSS" else none
      return some (← make (.join ⟨none, none, kind, [], false⟩) [e])
    | none => return none
  let start ← get
  let (manner, side, kind) ← joinParts g.dialect
  if g.dialect == .tsql then
    if (← secondIs (·.isWord "JOIN")) then
      let _ ← oneOf ["LOOP", "HASH", "MERGE", "REMOTE"]
  let joining ← word "JOIN"
  let notes ← takeNotes
  if !joining && kind != some "STRAIGHT_JOIN" then
    set start
    let outer ← atWords ["OUTER", "APPLY"]
    if outer || (← atWords ["CROSS", "APPLY"]) then
      match ← g.item with
      | some e =>
        let side := if outer then some JoinSide.left else none
        return some (← make (.join ⟨none, side, none, [], false⟩) [e])
      | none => fail "a table"
    else return none
  else
    let e ← need "a table" g.item
    let isUnnest := match e.form with
      | .unnest .. => true
      | _ => false
    let (inner, on, shared) ← do
      match ← joinCondition? g with
      | some (on, shared) => pure ([], on, shared)
      | none =>
        if manner.isNone && !isUnnest && kind != some "CROSS" && kind != some "ARRAY" then
          nestedJoins g
        else pure ([], none, [])
    let e := addingAll e inner
    let e := match kind, e with
      | some "ARRAY", .node (.table path _) n xs => .node (.column path) n xs
      | _, e => e
    let e := addingAll e (← pivots g)
    let plain := manner.isNone && (kind.isNone || kind == some "INNER" || kind == some "OUTER")
    let on := if bareJoinIsTrue g.dialect && on.isNone && shared.isEmpty && plain then
        some (.of (.boolean true)) else on
    return some (← makeWith notes (.join ⟨manner, side, kind, shared, on.isSome⟩) (e :: on.toList))

def joins (g : Grammar) : Parse (List Expr) := do
  let found ← iterate ([] : List Expr) fun found => do
    match ← join? g with
    | some j => return some (j :: found)
    | none => return none
  return found.reverse

end QueryFlow.Sql.Parse
