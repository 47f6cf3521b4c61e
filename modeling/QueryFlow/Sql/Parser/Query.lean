import QueryFlow.Sql.Parser.Items

/-!
Reading queries: the SELECT list, the clauses behind it, set operators between queries and the named
queries of a WITH clause. Clauses may come in any order, but none may come twice.
-/

namespace QueryFlow.Sql.Parse

open QueryFlow.Sql

/-- A `ROLLUP` or `CUBE` over columns. -/
def rollup? (g : Grammar) : Parse (Option Expr) := do
  match ← oneOf ["ROLLUP", "CUBE"] with
  | some w =>
    let xs ← inParens (commaList g.bitwise)
    return some (← make (.groupingItem w) xs)
  | none => return none

def groupItem? (g : Grammar) : Parse (Option Expr) := do
  if let some e ← rollup? g then return some e
  if ← word "GROUPING SETS" then
    let one : Parse (Option Expr) := do
      match ← rollup? g with
      | some e => return some e
      | none => g.bitwise
    let xs ← inParens (commaList one)
    return some (← make (.groupingItem "GROUPING SETS") xs)
  g.condition

def groupBody (g : Grammar) (notes : List String) : Parse Expr := do
  let modifier ← oneOf ["ALL", "DISTINCT"]
  let xs ← commaList (groupItem? g)
  let tail ← do
    if ← words ["WITH", "ROLLUP"] then pure "WITH ROLLUP"
    else if ← words ["WITH", "CUBE"] then pure "WITH CUBE"
    else if ← words ["WITH", "TOTALS"] then pure "WITH TOTALS"
    else pure ""
  makeWith notes (.groupBy ((modifier.map (" " ++ ·)).getD "") tail) xs

/-- The words behind a number of rows. The answer tells about `PERCENT` and `WITH TIES`. -/
def limitOptions : Parse (Bool × Bool) := do
  let percent ← if ← word "PERCENT" then pure true else symbol "%"
  let _ ← oneOf ["ROW", "ROWS"]
  let _ ← word "ONLY"
  let ties ← words ["WITH", "TIES"]
  return (percent, ties)

/-- The columns behind a limit that counts rows of each group. -/
def limitBy (g : Grammar) : Parse Unit := do
  if ← word "BY" then
    let _ ← commaList g.bitwise
    return ()

/-- What comes behind `LIMIT`: the limit, and an offset in front of it. No limit at all is written
`ALL`. -/
def limitBody (g : Grammar) (notes : List String) : Parse (Option (Expr × Option Expr)) := do
  if ← word "ALL" then return none
  let start ← get
  let value ← do
    match ← attempt (term? g) with
    | some e =>
      match e.form with
      | .binary .remainder =>
        set start
        factor? g
      | _ => pure (some e)
    | none => factor? g
  let _ ← limitOptions
  let (value, offset) ← if ← symbol "," then pure (← term? g, value) else pure (value, none)
  limitBy g
  match value with
  | none => fail "a number"
  | some v => return some (← makeWith notes (.limit false) [v], offset.map fun o => .of .offset [o])

/-- A number of rows in front of a SELECT list. -/
def topLimit? (g : Grammar) : Parse (Option Expr) := do
  unless g.dialect.readsTop && (← word "TOP") do return none
  let value ← do
    if ← symbol "(" then
      let inner ← do
        match ← term? g with
        | some e => pure (some e)
        | none => g.query
      expect ")"
      pure inner
    else
      match ← peek? with
      | some ⟨.number _, _⟩ => literal? g
      | _ => pure none
  let _ ← limitOptions
  match value with
  | none => fail "a number"
  | some v => return some (← make (.limit true) [v])

def fetchBody (g : Grammar) (notes : List String) : Parse Expr := do
  let direction ← oneOf ["FIRST", "NEXT"]
  let counted ← nextIs fun t => !(t.isWord "ROW" || t.isWord "ROWS" || t.isWord "PERCENT")
  let count ← if counted then atom? g else pure none
  let (percent, ties) ← limitOptions
  makeWith notes (.fetch (direction.getD "FIRST") percent ties) count.toList

/-- Dialects in which a query may lock the rows that it reads. -/
def locksRows : Dialect → Bool
  | .mysql | .oracle | .postgres | .redshift | .starrocks => true
  | _ => false

/-- What a query locks, when it says so. -/
def lock? (g : Grammar) : Parse (Option String) := do
  let kinds := [["FOR", "UPDATE"], ["FOR", "SHARE"], ["LOCK", "IN", "SHARE", "MODE"],
    ["FOR", "KEY", "SHARE"], ["FOR", "NO", "KEY", "UPDATE"]]
  let rec first : List (List String) → Parse (Option (List String))
    | [] => return none
    | ws :: r => do
      if ← words ws then return some ws else first r
  match ← first kinds with
  | none => return none
  | some ws =>
    let kind := if ws == ["LOCK", "IN", "SHARE", "MODE"] then "FOR SHARE" else " ".intercalate ws
    let tables ← if ← word "OF" then separated do return some (← tablePath g false) else pure []
    let paths := tables.filterMap fun e =>
      match e.form with
      | .table path _ => some (Name.renderPath g.dialect path)
      | _ => none
    let whose := if paths.isEmpty then "" else " OF " ++ ", ".intercalate paths
    let wait ← do
      if ← word "NOWAIT" then pure " NOWAIT"
      else if ← words ["SKIP", "LOCKED"] then pure " SKIP LOCKED"
      else if ← word "WAIT" then pure (((← literal? g).map fun n => " WAIT " ++ n.nameText).getD "")
      else pure ""
    return some (if locksRows g.dialect then kind ++ whose ++ wait else "")

def namedWindow? (g : Grammar) : Parse (Option Expr) := do
  match ← anyName? with
  | none => return none
  | some n =>
    let _ ← word "AS"
    if ← symbol "(" then
      let (shape, operands) ← windowBody g "AS"
      return some (← make (.window shape) (.of (.name n) :: operands))
    else
      let base ← name? g.dialect
      return some (← make (.window ⟨"AS", base, true, 0, 0, none⟩) [.of (.name n)])

/-- The name under which a clause is counted; no name means that it may come again. -/
def clauseKey? : Form → Option String
  | .where => some "WHERE"
  | .connectBy .. => some "CONNECT BY"
  | .groupBy .. => some "GROUP BY"
  | .having => some "HAVING"
  | .qualify => some "QUALIFY"
  | .windowNames => some "WINDOW"
  | .orderBy => some "ORDER BY"
  | .limit _ | .fetch .. => some "LIMIT"
  | .offset => some "OFFSET"
  | .lock _ => some "FOR"
  | .otherClause w => some w
  | _ => none

/-- The query has a clause that is counted under this name. -/
def hasClause (key : String) (q : Expr) : Bool :=
  q.operands.any fun x => clauseKey? x.form == some key

/-- Operands of a query with a limit behind its list of items. -/
def insertLimit (c : Expr) : List Expr → List Expr
  | [] => [c]
  | x :: xs =>
    match x.form with
    | .items => x :: c :: xs
    | _ => x :: insertLimit c xs

/-- The query with one more clause. A limit is looked at directly behind the items. -/
def addClause (q c : Expr) : Expr :=
  match q.form, c.form with
  | .select _, .limit _ | .select _, .fetch .. =>
    match q with
    | .node f n xs => .node f n (insertLimit c xs)
  | _, _ => adding q c

/-- The query with one more clause, unless it has such a clause. -/
def addOnce (q c : Expr) : Parse Expr := do
  match clauseKey? c.form with
  | some key => if hasClause key q then throw (.repeated key) else return addClause q c
  | none => return addClause q c

/-- Rows below rows, when a clause about them starts here. -/
def connectBody? (g : Grammar) : Parse (Option Expr) := do
  let notes ← takeNotes
  let before ← if ← word "START WITH" then do pure (some (← need "a condition" g.condition))
    else pure none
  let _ ← word "CONNECT BY"
  let noCycle ← word "NOCYCLE"
  let condition ← need "a condition" g.priorCondition
  let start ← if before.isNone && (← word "START WITH") then g.condition else pure before
  return some (← makeWith notes (.connectBy noCycle start.isSome) (start.toList ++ [condition]))

/-- The clause at the cursor, with a second clause when the text gives two at once. -/
def clause? (g : Grammar) : Parse (Option (Expr × Option Expr)) := do
  let one (e : Expr) : Parse (Option (Expr × Option Expr)) := return some (e, none)
  let under (f : Form) (p : Parse (Option Expr)) : Parse (Option (Expr × Option Expr)) := do
    let notes ← takeNotes
    let x ← need "a condition" p
    one (← makeWith notes f [x])
  let ordered (f : Form) : Parse (Option (Expr × Option Expr)) := do
    let notes ← takeNotes
    let xs ← orderItems g
    if xs.isEmpty then fail "an order"
    one (← makeWith notes f xs)
  match (← peek?).bind Token.word? with
  | some "WHERE" => skip 1; under .where g.condition
  | some "PREWHERE" =>
    if g.dialect == .clickhouse then
      skip 1
      under (.otherClause "PREWHERE") g.condition
    else return none
  | some "GROUP BY" =>
    skip 1
    let notes ← takeNotes
    one (← groupBody g notes)
  | some "START WITH" | some "CONNECT BY" =>
    match ← connectBody? g with
    | some c => one c
    | none => return none
  | some "HAVING" => skip 1; under .having g.condition
  | some "QUALIFY" => skip 1; under .qualify g.condition
  | some "WINDOW" =>
    skip 1
    let xs ← commaList (namedWindow? g)
    if xs.isEmpty then return none
    one (← make .windowNames xs)
  | some "ORDER BY" => skip 1; ordered .orderBy
  | some "SORT BY" => skip 1; ordered (.otherClause "SORT BY")
  | some "CLUSTER BY" => skip 1; ordered (.otherClause "CLUSTER BY")
  | some "DISTRIBUTE BY" => skip 1; ordered (.otherClause "DISTRIBUTE BY")
  | some "LIMIT" =>
    skip 1
    let notes ← takeNotes
    limitBody g notes
  | some "FETCH" =>
    skip 1
    let notes ← takeNotes
    one (← fetchBody g notes)
  | some "OFFSET" =>
    skip 1
    let notes ← takeNotes
    let n ← need "a number" (term? g)
    let _ ← oneOf ["ROW", "ROWS"]
    limitBy g
    one (← makeWith notes .offset [n])
  | some "FOR" | some "LOCK" =>
    let texts ← iterate ([] : List String) fun texts => do
      match ← lock? g with
      | some t => return some (t :: texts)
      | none => return none
    if texts.isEmpty then return none
    one (← make (.lock (" ".intercalate (texts.reverse.filter (!·.isEmpty)))))
  | some "TABLESAMPLE" | some "USING" =>
    match ← sample? g with
    | some s => one s
    | none => return none
  | some "SETTINGS" =>
    if g.dialect == .clickhouse then
      skip 1
      let xs ← commaList g.condition
      one (← make (.otherClause "SETTINGS") xs)
    else return none
  | some "FORMAT" =>
    if g.dialect == .clickhouse then
      skip 1
      let n ← need "a format" anyName?
      one (← make (.otherClause "FORMAT") [.of (.name n)])
    else return none
  | some "OPTION" =>
    if g.dialect == .tsql && (← secondIs (·.isSymbol "(")) then
      skip 2
      skipGroup
      one (← make (.otherClause "OPTION"))
    else return none
  | _ => return none

/-- A comma join with a path that starts at an item in front of it means the rows of that column,
where the dialect takes it so. -/
def impliedUnnests (d : Dialect) (q : Expr) : Expr :=
  let known (e : Expr) : List String :=
    match aliasOf? e, e.form with
    | some ⟨some n, _, _⟩, _ => [Text.lower n.text]
    | _, .table path _ => (path.getLast?.map fun n => Text.lower n.text).toList
    | _, _ => []
  let step (seen : List String) (x : Expr) : List String × Expr :=
    match x with
    | .node .from _ (e :: _) => (known e ++ seen, x)
    | .node (.join k) n (e :: r) =>
      let e' := match e with
        | .node (.table (p :: q :: ps) a) m xs =>
          if !k.hasCondition && seen.contains (Text.lower p.text) then
            .node (.unnest a false) m [.node (.column (p :: q :: ps)) [] xs]
          else e
        | _ => e
      (known e ++ seen, .node (.join k) n (e' :: r))
    | x => (seen, x)
  if d == .bigquery || d == .redshift then
    match q with
    | .node (.select distinct) n xs =>
      let (_, ys) := xs.foldl (fun (seen, done) x =>
        let (seen, y) := step seen x
        (seen, y :: done)) (([], []) : List String × List Expr)
      .node (.select distinct) n ys.reverse
    | q => q
  else q

/-- The node may have joins and clauses behind it. -/
def takesClauses (e : Expr) : Bool :=
  match e.form with
  | .select _ | .setOperation _ | .subquery _ | .table .. | .tableFunction _ | .values _ => true
  | _ => false

/-- Joins and clauses behind a query, each clause at most once. -/
def clauses (g : Grammar) (q : Expr) : Parse Expr := do
  unless takesClauses q do return q
  let q := addingAll q (← joins g)
  let q ← iterate q fun q => do
    match ← lateral? g with
    | some l => return some (adding q l)
    | none => return none
  let q ← iterate q fun q => do
    match ← clause? g with
    | none => return none
    | some (c, more) =>
      let q ← addOnce q c
      match more with
      | some o => return some (addClause q o)
      | none => return some q
  return impliedUnnests g.dialect q

/-- The clauses that a query gives up to the set operation whose second part it is. -/
def isShared : Form → Bool
  | .orderBy | .limit _ | .fetch .. | .offset => true
  | _ => false

def setOperation? (g : Grammar) (left : Expr) : Parse (Option Expr) := do
  let start ← get
  let _ ← joinParts g.dialect
  let minus := match g.dialect with
    | .oracle | .redshift | .snowflake | .hive | .spark | .databricks => ["MINUS"]
    | _ => []
  match ← oneOf (["UNION", "EXCEPT", "INTERSECT"] ++ minus) with
  | none =>
    set start
    return none
  | some w =>
    let notes ← takeNotes
    let distinct ← word "DISTINCT"
    let all ← if distinct then pure false else word "ALL"
    let needed := match g.dialect with
      | .bigquery => true
      | .clickhouse => w == "UNION"
      | _ => false
    if needed && !distinct && !all then fail "DISTINCT or ALL"
    let byName ← if ← words ["BY", "NAME"] then pure true else word "CORRESPONDING"
    let right ← need "a query" g.plainQuery
    let operator : SetOperator := ⟨if w == "MINUS" then "EXCEPT" else w, all, byName⟩
    return some (← makeWith notes (.setOperation operator) [left, right])

/-- Set operations behind a query, grouped from the left. The order and limit of the last part are
those of the whole. -/
def setOperations (g : Grammar) (q : Expr) : Parse Expr := do
  let q ← iterate q fun q => setOperation? g q
  match q with
  | .node (.setOperation op) n (left :: .node (.select distinct) m ys :: xs) =>
    if g.dialect == .clickhouse then return q
    let moved := ys.filter fun y => isShared y.form
    let kept := ys.filter fun y => !isShared y.form
    return .node (.setOperation op) n (left :: .node (.select distinct) m kept :: xs ++ moved)
  | q => return q

def commonTable? (g : Grammar) : Parse (Option Expr) := do
  let start ← get
  match ← itemAlias? g [] with
  | some ⟨some n, columns, types⟩ =>
    let opened ← word "AS"
    let optional := match g.dialect with
      | .clickhouse | .databricks | .hive | .spark => true
      | _ => false
    unless opened || optional do
      set start
      return none
    let notes ← takeNotes
    let materialized ← do
      if ← words ["NOT", "MATERIALIZED"] then pure (some false)
      else if ← word "MATERIALIZED" then pure (some true)
      else pure none
    let body ← inParens (need "a statement" g.statement)
    let body := match body.form with
      | .values a =>
        let named := if a.isSome then body else
          match body with
          | .node _ ns xs => .node (.values (some { name := some (.bare "_values") })) ns xs
        Expr.of (.select false) [.of .items [.of .star], .of .from [named]]
      | _ => body
    return some (← makeWith notes (.commonTable ⟨some n, columns, types⟩ materialized) [body])
  | _ => fail "a name"

def commonValue? (g : Grammar) : Parse (Option Expr) := do
  match ← g.condition with
  | none => return none
  | some e =>
    match ← itemAlias? g [] with
    | some a => return some (← make (.commonTable a none) [e])
    | none => return none

/-- The order in which a recursive query finds its rows, or how it sees that it goes round. -/
def searchOrder? (g : Grammar) : Parse (Option Expr) := do
  let _ ← word "SEARCH"
  match ← oneOf ["BREADTH", "DEPTH", "CYCLE"] with
  | none => return none
  | some kind =>
    let _ ← words ["FIRST", "BY"]
    let order ← name g.dialect
    expectWord "SET"
    let mark ← name g.dialect
    let path ← if ← word "USING" then do pure [← name g.dialect] else pure []
    let opening := if kind == "CYCLE" then kind else "SEARCH " ++ kind ++ " FIRST BY"
    let pattern := opening ++ " $1 SET $2" ++ (if path.isEmpty then "" else " USING $3")
    return some (.of (.phrase pattern) ((order :: mark :: path).map fun n => .of (.name n)))

/-- The WITH clause; its word is the next token when there is one. -/
def withClause? (g : Grammar) : Parse (Option Expr) := do
  unless ← word "WITH" do return none
  let notes ← takeNotes
  let recursive ← word "RECURSIVE"
  let one : Parse (Option Expr) :=
    if g.dialect == .clickhouse then do
      match ← attempt (commonTable? g) with
      | some e => return some e
      | none => commonValue? g
    else commonTable? g
  let start : List Expr × Bool := ([], true)
  let (tables, _) ← iterate start fun (tables, more) => do
    unless more do return none
    let e ← one
    let comma ← symbol ","
    let again ← word "WITH"
    return some (e.toList ++ tables, comma || again)
  if tables.isEmpty then fail "AS"
  let order ← searchOrder? g
  return some (← makeWith notes (.with recursive) (tables.reverse ++ order.toList))

/-- A query in nothing but parentheses, without them. -/
def unwrapped : Expr → Expr
  | .node (.subquery none) _ [x] => unwrapped x
  | e => e

/-- A statement behind a WITH clause, with the clause as its last part. -/
def withBody (g : Grammar) (clause : Expr) : Parse Expr := do
  let body ← need "a statement" g.statement
  match unwrapped body with
  | .node f n xs =>
    match f with
    | .select _ | .setOperation _ | .subquery _ | .command true =>
      let isWith (x : Expr) : Bool :=
        match x.form with
        | .with _ => true
        | _ => false
      return .node f n (xs.filter (!isWith ·) ++ [clause])
    | _ => fail "a query"

def fromClause? (g : Grammar) (inner : Bool) : Parse (Option Expr) := do
  unless ← word "FROM" do return none
  let notes ← takeNotes
  let e ← need "a table" g.item
  let e ← if inner then pure (addingAll e (← joins g)) else pure e
  return some (← makeWith notes .from [e])

/-- `SELECT x = a` gives the name `x` to the value `a`, where the dialect takes it so. -/
def namedByEquality (d : Dialect) (e : Expr) : Expr :=
  match d, e with
  | .tsql, .node (.binary .equal) _ [.node (.column path) _ _, v] =>
    match path.getLast? with
    | some n => .of (.alias n) [v]
    | none => e
  | _, e => e

def hint : Parse Unit := do
  if ← accept fun t => t.lexeme == .hint then
    let _ ← takeNotes

/-- Words behind `SELECT` that tell a server how to run the query. -/
def selectHints (d : Dialect) : Parse Unit := do
  if d.likeMysql then
    let _ ← iterate () fun _ => do
      match ← oneOf ["HIGH_PRIORITY", "STRAIGHT_JOIN", "SQL_SMALL_RESULT", "SQL_BIG_RESULT",
          "SQL_BUFFER_RESULT", "SQL_NO_CACHE", "SQL_CALC_FOUND_ROWS"] with
      | some _ => return some ()
      | none => return none
    return ()

/-- The columns on which `DISTINCT ON` looks. -/
def distinctOn? (g : Grammar) : Parse (Option Expr) := do
  unless ← word "ON" do return none
  match ← valuesRow? g with
  | some (.node .tuple n xs) => return some (.node .distinctOn n xs)
  | _ => return none

def selectBody (g : Grammar) (first : Option Expr) : Parse Expr := do
  let notes ← takeNotes
  hint
  let (all, distinct) ← do
    match (← rest).drop 1 with
    | t :: _ =>
      if t.isSymbol "." then pure (false, false)
      else do
        let all ← word "ALL"
        pure (all, ← word "DISTINCT")
    | [] => pure (false, false)
  if ← word "AS" then
    let _ ← oneOf ["STRUCT", "VALUE"]
  let on ← if distinct then distinctOn? g else pure none
  if all && distinct then fail "ALL or DISTINCT"
  selectHints g.dialect
  let top ← topLimit? g
  let items ← commaList g.expression
  let items := items.map (namedByEquality g.dialect)
  let into ← do
    if ← word "INTO" then
      let _ ← oneOf ["TEMPORARY", "TEMP"]
      let _ ← word "UNLOGGED"
      let _ ← word "TABLE"
      let t ← tablePath g false
      pure [Expr.of .into [t]]
    else pure []
  let source ← do
    match first with
    | some f => pure (some f)
    | none => fromClause? g false
  let parts := on.toList ++ [.of .items items] ++ top.toList ++ into ++ source.toList
  clauses g (.node (.select distinct) notes parts)

/-- All rows of a table that stands behind `TABLE`. -/
def tableQuery? (g : Grammar) : Parse (Option Expr) := do
  if (← atWord "TABLE") && (← secondIs (isName g.dialect)) then
    skip 1
    let t ← need "a table" g.item
    let items := Expr.of .items [.of .star]
    return some (← clauses g (.of (.select false) [items, .of .from [t]]))
  else return none

/-- The query without set operations, if one starts here. -/
def queryHead? (g : Grammar) : Parse (Option Expr) := do
  let first ← if ← atWord "FROM" then fromClause? g true else pure none
  if ← word "SELECT" then return some (← selectBody g first)
  if let some q ← tableQuery? g then return some q
  if (← atWord "VALUES") then return ← values? g
  match first with
  | some f => return some (← clauses g (.of (.select false) [.of .items [.of .star], f]))
  | none => return none

/-- A query that starts with a keyword, with its set operations. -/
def query? (g : Grammar) : Parse (Option Expr) := do
  match ← withClause? g with
  | some w => return some (← withBody g w)
  | none =>
    match ← queryHead? g with
    | some q => return some (← setOperations g q)
    | none => return none

def wrappedQuery (g : Grammar) (content : Parse (Option Expr)) : Parse Expr := do
  expect "("
  let opening ← takeNotes
  let inner ← need "a query" content
  let inner ← clauses g (← setOperations g inner)
  let inner := match inner with
    | .node f n xs => Expr.node f (opening ++ n) xs
  expect ")"
  let _ ← takeNotes
  let turned ← pivots g
  let shown ← tableAlias? g
  let sample ← sample? g
  make (.subquery shown) (inner :: turned ++ sample.toList)

/-- A query, which may stand in parentheses, without set operations behind it. -/
def plainQuery? (g : Grammar) : Parse (Option Expr) := do
  match ← withClause? g with
  | some w => return some (← withBody g w)
  | none =>
    if ← atSymbol "(" then return some (← wrappedQuery g g.plainQuery)
    else queryHead? g

/-- A query in the place of a FROM item, or a FROM item in parentheses. -/
def itemQuery? (g : Grammar) : Parse (Option Expr) := do
  match ← withClause? g with
  | some w => return some (← withBody g w)
  | none =>
    if ← atSymbol "(" then return some (← wrappedQuery g g.item)
    else
      match ← queryHead? g with
      | some q => return some (← setOperations g q)
      | none => return none

end QueryFlow.Sql.Parse
