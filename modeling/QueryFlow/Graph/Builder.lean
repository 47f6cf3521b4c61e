import QueryFlow.Graph.Basic
import QueryFlow.Keyed
import QueryFlow.Schema.Basic

/-!
Building the flow graph of a query. A builder only ever adds nodes and edges at the end. The parts
of a query are taken in the order in which rows pass through them: named queries, FROM and JOIN,
WHERE, GROUP BY, and the result.
-/

namespace QueryFlow

open Sql

/-- The columns that a SELECT refers to, under the qualifier they are written with. -/
structure Usage where
  showAll : Bool := false
  columns : List (String × List String) := []
  deriving Repr, DecidableEq

namespace Usage

/-- The qualifier of columns that are written without one. -/
def unqualified : String := "__unqualified__"

def under (u : Usage) (qualifier : String) : List String := (u.columns.lookup qualifier).getD []

def note (u : Usage) (qualifier column : String) : Usage :=
  let known := u.under qualifier
  let more := if known.contains column then known else known ++ [column]
  { u with columns := Keyed.assign qualifier more u.columns }

/-- Note references in order. A star without a table means all columns, and ends it. -/
def collect (u : Usage) : List Reference → Usage
  | [] => u
  | r :: rest =>
    if r.column == "*" then
      match r.table with
      | none => { u with showAll := true }
      | some t => collect { u with columns := Keyed.assign t ["*"] u.columns } rest
    else collect (u.note (r.table.getD unqualified) r.column) rest

/-- The item is a star without a table. -/
def isStar (i : SelectItem) : Bool :=
  match i.expr.form with
  | .star => true
  | _ => false

/-- The expressions of a SELECT in which columns count as used. -/
def expressionsOf (s : Selection) : List Expr :=
  s.items.map (·.expr) ++ s.entries.filterMap (fun e => e.join.bind (·.condition))
    ++ s.condition.toList ++ s.groupBy ++ s.orderBy

def ofSelection (s : Selection) : Usage :=
  if s.items.any isStar then { showAll := true }
  else collect {} ((expressionsOf s).flatMap Expr.references)

/-- The columns of a table that are used, under its name, its alias or no qualifier. -/
def keep (u : Usage) (table : String) (shown : Option String) (columns : List ColumnRef) :
    List ColumnRef :=
  let byAlias := (shown.map u.under).getD []
  let byName := u.under table
  if u.showAll || byAlias.contains "*" || byName.contains "*" then columns
  else columns.filter fun c =>
    byAlias.contains c.name || byName.contains c.name || (u.under unqualified).contains c.name

end Usage

/-- What a builder needs to know besides the query. -/
structure BuildContext where
  dialect : Dialect := .postgres
  schema : List Schema.Table := []

namespace BuildContext

/-- The known table that a name means: the last one with exactly that name, otherwise the last one
with that name in any letter case. -/
def table? (c : BuildContext) (name : String) : Option Schema.Table :=
  (c.schema.reverse.find? (·.name == name))
    <|> (c.schema.reverse.find? fun t => Text.lower t.name == Text.lower name)

/-- The columns of a known table; none for an unknown one. -/
def columns (c : BuildContext) (name : String) : List ColumnRef :=
  match c.table? name with
  | none => []
  | some t => t.columns.map fun col => ⟨col.name, some name, some col.name, nonEmpty? col.dataType⟩

end BuildContext

/-- A graph in the making. -/
structure Builder where
  nodes : List Node := []
  edges : List Edge := []
  /-- The number that the next node id ends in. -/
  counter : Nat := 0
  /-- The result nodes of the named queries. -/
  results : List (String × String) := []
  /-- The colors of tables, named queries and their aliases. -/
  colors : List (String × Nat) := []
  nextColor : Nat := 0
  /-- The usage of the SELECT that was taken last. -/
  usage : Usage := {}
  deriving Repr, DecidableEq

namespace Builder

def idStart : NodeKind → String
  | .table => "table"
  | .named => "cte"
  | .group => "cte_group"
  | .join => "join"
  | .filter => "filter"
  | .aggregation => "agg"
  | .output => "output"

def nodeId (kind : NodeKind) (number : Nat) : String := idStart kind ++ "_" ++ toString number

/-- Add a node; the answer is its id. -/
def addNode (b : Builder) (parent : Option String) (data : NodeData) : String × Builder :=
  let id := nodeId data.kind b.counter
  (id, { b with nodes := b.nodes ++ [⟨id, data, parent⟩], counter := b.counter + 1 })

/-- The first text that is not taken among `start`, `start_1`, `start_2` and so on. -/
def freshId (taken : List String) (start : String) : String :=
  let rec search : Nat → Nat → String
    | 0, suffix => start ++ "_" ++ toString suffix
    | fuel + 1, suffix =>
      let id := start ++ "_" ++ toString suffix
      if taken.contains id then search fuel (suffix + 1) else id
  if taken.contains start then search taken.length 1 else start

def addEdge (b : Builder) (source target : String) (columns : Option (List String)) : Builder :=
  let id := freshId (b.edges.map (·.id)) ("e_" ++ source ++ "_" ++ target)
  { b with edges := b.edges ++ [⟨id, source, target, columns, none, some true⟩] }

/-- Add an edge from the end of a chain, when there is one. -/
def addEdgeFrom (b : Builder) (source : Option String) (target : String)
    (columns : Option (List String)) : Builder :=
  match source with
  | some s => b.addEdge s target columns
  | none => b

/-- The color of a table, which is a new one at its first use. -/
def colorOf (b : Builder) (table : String) : Nat × Builder :=
  match b.colors.lookup table with
  | some c => (c, b)
  | none =>
    (b.nextColor, { b with
      colors := Keyed.assign table b.nextColor b.colors
      nextColor := b.nextColor + 1 })

def colorAlias (b : Builder) (shown : Option String) (color : Nat) : Builder :=
  match shown with
  | some a => { b with colors := Keyed.assign a color b.colors }
  | none => b

def addTable (ctx : BuildContext) (b : Builder) (parent : Option String) (table : String)
    (shown : Option String) : String × Builder :=
  let (color, b) := b.colorOf table
  let b := b.colorAlias shown color
  let columns := b.usage.keep table shown (ctx.columns table)
  b.addNode parent (.table ⟨table, shown, columns, color⟩)

/-- The node that an entry reads from: the result of a named query, or a new table node. -/
def readEntry (ctx : BuildContext) (b : Builder) (parent : Option String) (e : FromEntry) :
    String × Builder :=
  match b.results.lookup e.table with
  | some id =>
    match b.colors.lookup e.table with
    | some color => (id, b.colorAlias e.alias color)
    | none => (id, b)
  | none => b.addTable ctx parent e.table e.alias

/-- The join node of two inputs, with an edge from each. -/
def addJoin (ctx : BuildContext) (b : Builder) (parent : Option String) (marker : JoinMarker)
    (left right : String) : String × Builder :=
  let condition := (marker.condition.map (Expr.clauseText ctx.dialect)).getD ""
  let columns := (marker.condition.map fun e => e.references.map (·.column)).getD []
  let (id, b) := b.addNode parent (.join ⟨marker.type, condition⟩)
  (id, (b.addEdge left id (some columns)).addEdge right id (some columns))

/-- Take one more entry; the answer is the new end of the chain. -/
def takeEntry (ctx : BuildContext) (parent : Option String) (step : Option String × Builder)
    (e : FromEntry) : Option String × Builder :=
  let (last, b) := step
  let (current, b) := b.readEntry ctx parent e
  match e.join, last with
  | some marker, some left =>
    let (id, b) := b.addJoin ctx parent marker left current
    (some id, b)
  | _, _ => (some current, b)

/-- Take all entries of a FROM clause; the answer is the end of the chain. -/
def takeEntries (ctx : BuildContext) (b : Builder) (parent : Option String)
    (entries : List FromEntry) : Option String × Builder :=
  entries.foldl (takeEntry ctx parent) (none, b)

/-- Put one more node at the end of the chain. -/
def extend (b : Builder) (parent last : Option String) (data : NodeData) :
    Option String × Builder :=
  let (id, b) := b.addNode parent data
  (some id, b.addEdgeFrom last id none)

/-- The aggregates that a SELECT computes, each once. -/
def aggregatesOf (d : Dialect) (s : Selection) : List String :=
  (s.items.flatMap fun i => i.expr.aggregates d).foldl
    (fun seen a => if seen.contains a then seen else seen ++ [a]) []

/-- Take everything of a SELECT but its result; the answer is the end of the chain. -/
def takeInner (ctx : BuildContext) (b : Builder) (parent : Option String) (s : Selection) :
    Option String × Builder :=
  let b := { b with usage := Usage.ofSelection s }
  let (last, b) := b.takeEntries ctx parent s.entries
  let (last, b) :=
    match s.condition with
    | some c => b.extend parent last (.filter ⟨c.clauseText ctx.dialect⟩)
    | none => (last, b)
  if s.groupBy.isEmpty then (last, b)
  else
    b.extend parent last
      (.aggregation ⟨s.groupBy.map (Expr.clauseText ctx.dialect), aggregatesOf ctx.dialect s⟩)

def columnOf (d : Dialect) (i : SelectItem) : ColumnRef :=
  match i.expr.form with
  | .star => ⟨i.alias.getD "*", none, none, none⟩
  | .column path =>
    let r := Reference.ofPath path
    ⟨i.alias.getD r.column, r.table, some r.column, none⟩
  | .allOf path =>
    let r := Reference.allOf path
    ⟨i.alias.getD r.column, r.table, some r.column, none⟩
  | _ =>
    let first := i.expr.references.head?
    ⟨i.alias.getD (i.expr.text d), first.bind (·.table), first.map (·.column), none⟩

def columnsOf (d : Dialect) (s : Selection) : List ColumnRef := s.items.map (columnOf d)

/-- Take a named query. The nodes of its body belong to a new group, its result does not. -/
def takeNamed (ctx : BuildContext) (b : Builder) (name : String) (s : Selection) : Builder :=
  let color := b.nextColor
  let b := { b with colors := Keyed.assign name color b.colors, nextColor := color + 1 }
  let (group, b) := b.addNode none (.group ⟨name, color⟩)
  let (last, b) := b.takeInner ctx (some group) s
  let (result, b) := b.addNode none
    (.named ⟨name, columnsOf ctx.dialect s, s.condition.isSome, !s.groupBy.isEmpty, color⟩)
  let b := b.addEdgeFrom last result none
  { b with results := Keyed.assign name result b.results }

/-- The whole number that a limit says. -/
def limitValue? (limit : Option Expr) : Option Int :=
  match limit.map Expr.form with
  | some (.number s) =>
    if s.toList.all Text.isDigit && !s.isEmpty then some (Text.digitsValue s.toList) else none
  | _ => none

def takeMain (ctx : BuildContext) (b : Builder) (s : Selection) : Builder :=
  let (last, b) := b.takeInner ctx none s
  let columns := columnsOf ctx.dialect s
  let orderBy := if s.orderBy.isEmpty then none
    else some (", ".intercalate (s.orderBy.map (Expr.text ctx.dialect)))
  let colors := b.colors.map fun (k, c) => (k, (c : Int))
  let (id, b) := b.addNode none (.output ⟨columns, orderBy, limitValue? s.limit, some colors⟩)
  b.addEdgeFrom last id (some (columns.map (·.name)))

def takeQuery (ctx : BuildContext) (b : Builder) : Query → Builder
  | .select body => b.takeMain ctx body
  | .withBindings bindings body _ =>
    (bindings.foldl (fun b x => b.takeNamed ctx x.name x.body) b).takeMain ctx body

def graph (b : Builder) : Graph := ⟨b.nodes, b.edges⟩

end Builder

def Query.graph (ctx : BuildContext) (q : Query) : Graph := (({} : Builder).takeQuery ctx q).graph

end QueryFlow
