import QueryFlow.Query.References
import QueryFlow.Sql.Statement

/-!
The parts of a query that decide how rows flow: what is selected, from which tables, under which
condition, and how the rows are grouped and ordered. FROM items other than plain tables are left out
here, and nothing is said about what a query computes.
-/

namespace QueryFlow

open Sql

structure SelectItem where
  expr : Expr
  «alias» : Option String

/-- The kinds of join that are told apart. -/
inductive JoinType where
  | inner | left | right | full | cross
  deriving Repr, DecidableEq

namespace JoinType

def label : JoinType → String
  | inner => "INNER"
  | left => "LEFT"
  | right => "RIGHT"
  | full => "FULL"
  | cross => "CROSS"

def text (t : JoinType) : String := t.label ++ " JOIN"

def all : List JoinType := [inner, left, right, full, cross]

def ofLabel? (s : String) : Option JoinType := all.find? (·.label == s)

theorem ofLabel?_label (t : JoinType) : ofLabel? t.label = some t := by cases t <;> decide

def ofKind (k : JoinKind) : JoinType :=
  if k.kind == some "CROSS" then cross
  else match k.side with
    | some .left => left
    | some .right => right
    | some .full => full
    | none => inner

end JoinType

/-- How a table is joined to what stands in front of it. -/
structure JoinMarker where
  type : JoinType
  condition : Option Expr

/-- A table of the FROM clause. One behind a comma has no marker, and neither has one behind a
JOIN that says nothing else. -/
structure FromEntry where
  table : String
  «alias» : Option String
  join : Option JoinMarker

/-- The name by which the other parts of the query know the table. -/
def FromEntry.visibleName (e : FromEntry) : String := e.alias.getD e.table

/-- One SELECT. -/
structure Selection where
  items : List SelectItem
  entries : List FromEntry
  condition : Option Expr
  groupBy : List Expr
  orderBy : List Expr
  limit : Option Expr

structure Binding where
  name : String
  body : Selection

/-- A statement that selects, with or without a WITH clause. -/
inductive Query where
  | select (body : Selection)
  | withBindings (bindings : List Binding) (body : Selection) (recursive : Bool)

namespace Selection

/-- The join says more than a comma does. -/
def isExplicit (k : JoinKind) : Bool :=
  k.side.isSome || k.kind.isSome || k.hasCondition || !k.shared.isEmpty || k.manner.isSome

def columnOf (table : String) (column : Name) : Expr :=
  .of (.column [Name.ofText table, Name.ofText column.text])

/-- The condition that two tables agree on the shared columns. -/
def sharedCondition? (left right : String) (shared : List Name) : Option Expr :=
  shared.foldl (fun sofar c =>
    let same := Expr.of (.binary .equal) [columnOf left c, columnOf right c]
    match sofar with
    | none => some same
    | some e =>
      let e := match e.form with
        | .binary .and | .binary .or => .of .paren [e]
        | _ => e
      some (.of (.binary .and) [e, same])) none

def itemKind (e : Expr) : String :=
  match e.form with
  | .table .. | .tableFunction _ => "Table"
  | .values _ => "Values"
  | .lateral _ => "Lateral"
  | .unnest .. => "Unnest"
  | .select _ => "Select"
  | .setOperation op =>
    match op.word with
    | "EXCEPT" => "Except"
    | "INTERSECT" => "Intersect"
    | _ => "Union"
  | .column _ => "Column"
  | .final => "Final"
  | .subscript => "Bracket"
  | .dot => "Dot"
  | _ => "Subquery"

/-- A plain table as an entry with this marker; none for any other item, and for one without a
name. -/
def ofItem? (e : Expr) (join : Option JoinMarker) : Option FromEntry :=
  match e.form with
  | .table path shown =>
    match path.getLast?.bind fun n => nonEmpty? n.text with
    | some table => some ⟨table, (shown.bind (·.name)).bind fun n => nonEmpty? n.text, join⟩
    | none => none
  | _ => none

/-- The name by which the right side of a join is known. -/
def rightName (e : Expr) : String :=
  match e.form with
  | .table path shown =>
    (((shown.bind (·.name)).bind fun n => nonEmpty? n.text)
      <|> (path.getLast?.map (·.text))).getD ""
  | .tableFunction shown => ((shown.bind (·.name)).map (·.text)).getD ""
  | _ => ""

def marker? (previous : String) (k : JoinKind) (item : Expr) (condition : List Expr) :
    Option JoinMarker :=
  if isExplicit k then
    let on := match condition with
      | c :: _ => some c
      | [] => sharedCondition? previous (rightName item) k.shared
    some ⟨JoinType.ofKind k, on⟩
  else none

/-- The entries of the joins among the clauses; `previous` is the name of the entry before them. -/
def joinEntries (previous : String) : List Expr → List FromEntry
  | [] => []
  | .node (.join k) _ (item :: condition) :: r =>
    match ofItem? item (marker? previous k item condition) with
    | some e => e :: joinEntries e.visibleName r
    | none => joinEntries previous r
  | _ :: r => joinEntries previous r

def firstItem? (clauses : List Expr) : Option Expr :=
  clauses.findSome? fun c =>
    match c with
    | .node .from _ (item :: _) => some item
    | _ => none

def entriesOf (clauses : List Expr) : List FromEntry :=
  match (firstItem? clauses).bind fun item => ofItem? item none with
  | some e => e :: joinEntries e.visibleName clauses
  | none => joinEntries "" clauses

def itemOf (e : Expr) : SelectItem :=
  match e with
  | .node (.alias n) _ (x :: _) => ⟨x, nonEmpty? n.text⟩
  | e => ⟨e, none⟩

def operandsOf (is : Form → Bool) (clauses : List Expr) : List Expr :=
  ((clauses.find? fun c => is c.form).map Expr.operands).getD []

def isOrder : Form → Bool
  | .orderBy => true
  | .otherClause w => w == "SORT BY" || w == "CLUSTER BY" || w == "DISTRIBUTE BY"
  | _ => false

/-- An order item without its direction. -/
def unordered (e : Expr) : Expr :=
  match e with
  | .node (.ordered ..) _ (x :: _) => x
  | e => e

def ofClauses (clauses : List Expr) : Selection where
  items := (operandsOf (fun | .items => true | _ => false) clauses).map itemOf
  entries := entriesOf clauses
  condition := (operandsOf (fun | .where => true | _ => false) clauses).head?
  groupBy := operandsOf (fun | .groupBy .. => true | _ => false) clauses
  orderBy := (operandsOf isOrder clauses).map unordered
  limit := (operandsOf (fun | .limit _ => true | _ => false) clauses).head?

/-- The selection of a SELECT node; none for any other node. -/
def ofExpr? (e : Expr) : Option Selection :=
  match e.form with
  | .select _ => some (ofClauses e.operands)
  | _ => none

def leftOut (clauses : List Expr) : List String :=
  let items := (firstItem? clauses).toList ++ clauses.filterMap fun c =>
    match c with
    | .node (.join _) _ (item :: _) => some item
    | _ => none
  (items.filter fun e => (ofItem? e none).isNone).map itemKind

end Selection

namespace Query

/-- The named queries of a WITH clause, each with its tree. -/
def boundTrees (clauses : List Expr) : Option (Bool × List (String × Expr)) :=
  clauses.findSome? fun c =>
    match c with
    | .node (.with recursive) _ tables =>
      some (recursive, tables.filterMap fun t =>
        match t with
        | .node (.commonTable shown _) _ (body :: _) =>
          some ((shown.name.map (·.text)).getD "", body)
        | _ => none)
    | _ => none

/-- The query of a tree; none when its top node is not a SELECT. Named queries that are no SELECT
are left out. -/
def ofExpr? (e : Expr) : Option Query :=
  match Selection.ofExpr? e with
  | none => none
  | some body =>
    match boundTrees e.operands with
    | none => some (.select body)
    | some (recursive, trees) =>
      let bindings := trees.filterMap fun (name, t) =>
        (Selection.ofExpr? t).map fun s => Binding.mk name s
      some (.withBindings bindings body recursive)

def ofStatement? : Statement → Option Query
  | .query tree => ofExpr? tree
  | _ => none

end Query

end QueryFlow
