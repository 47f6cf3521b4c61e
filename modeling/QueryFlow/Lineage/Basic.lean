import QueryFlow.Graph.Basic
import QueryFlow.Keyed

/-!
The lineage of output columns: the table column that each of them comes from. A column that names
its source is looked up by that name; any other is searched for against the flow, in the tables that
rows come from. A search that gets deeper than the graph has nodes is cut off.
-/

namespace QueryFlow

structure LineageSource where
  table : String
  column : String
  deriving Repr, DecidableEq

def LineageSource.text (s : LineageSource) : String := s.table ++ "." ++ s.column

/-- Where an output column comes from. No source means that it is not known. -/
structure LineageEntry where
  output : String
  sources : List LineageSource := []
  deriving Repr, DecidableEq

namespace LineageEntry

def resolved (e : LineageEntry) : Bool := !e.sources.isEmpty

def line (e : LineageEntry) : String :=
  e.output ++ " <- "
    ++ if e.resolved then ", ".intercalate (e.sources.map LineageSource.text) else "(unresolved)"

end LineageEntry

namespace Lineage

/-- What a search finds, and the columns whose search was cut off on the way. -/
structure Trail where
  sources : List LineageSource := []
  cut : List String := []
  deriving Repr, DecidableEq

/-- A graph prepared for searches: its nodes under their ids. -/
structure Chart where
  nodes : List (String × Node)
  edges : List Edge

namespace Chart

/-- The chart of a graph. Of nodes with one id, the last one counts, in the place of the first. -/
def ofGraph (g : Graph) : Chart :=
  ⟨Keyed.assignAll (g.nodes.map fun n => (n.id, n)) [], g.edges⟩

/-- The first table that has this name or alias. -/
def table? (c : Chart) (name : String) : Option TableSource :=
  c.nodes.findSome? fun (_, n) =>
    match n.data with
    | .table t => if t.table == name || t.alias == some name then some t else none
    | _ => none

/-- The first result of a named query with this name, and the id of its node. -/
def named? (c : Chart) (name : String) : Option (String × NamedResult) :=
  c.nodes.findSome? fun (id, n) =>
    match n.data with
    | .named r => if r.name == name then some (id, r) else none
    | _ => none

/-- The nodes from which rows flow directly into a node, in the order of the edges. -/
def parents (c : Chart) (id : String) : List String :=
  (c.edges.filter (·.target == id)).map (·.source)

end Chart

def given? (name : Option String) : Option String := name.bind nonEmpty?

/-- Try candidates in order until one has a source. -/
def firstFound {α : Type} (search : α → Trail) : List α → Trail
  | [] => {}
  | x :: r =>
    let t := search x
    if t.sources.isEmpty then
      let u := firstFound search r
      ⟨u.sources, t.cut ++ u.cut⟩
    else t

/-- The column that a table lists under the name of a searched column or of its source. -/
def listed? (t : TableSource) (col : ColumnRef) : Option ColumnRef :=
  t.columns.find? fun c => c.name == col.name || some c.name == col.sourceColumn

/-- What the names in a column say about its origin. -/
inductive Origin where
  /-- A column of a table. -/
  | table (source : LineageSource)
  /-- A column of the result of a named query, at this node, if the result has such a column. The
  last part stands for it when its own origin is not found. -/
  | named (node : String) (inner : Option ColumnRef) (stand : LineageSource)

/-- The origin that a column names: a table before a named query. -/
def origin? (c : Chart) (col : ColumnRef) : Option Origin :=
  match given? col.sourceTable, given? col.sourceColumn with
  | some table, some column =>
    match c.table? table with
    | some t => some (.table ⟨t.table, column⟩)
    | none =>
      (c.named? table).map fun (node, r) =>
        .named node (r.columns.find? fun inner => inner.name == column) ⟨table, column⟩
  | _, _ => none

/-- Search a column in the nodes above one; `search` is the search as seen at such a node. -/
def above (c : Chart) (search : String → Trail) (col : ColumnRef) (id : String) : Trail :=
  firstFound (fun parent =>
    match c.nodes.lookup parent with
    | none => {}
    | some n =>
      match n.data with
      | .table t =>
        match listed? t col with
        | some found => ⟨[⟨t.table, found.name⟩], []⟩
        | none => search parent
      | _ => search parent) (c.parents id)

/-- The trail of a named column: what is found for the inner column, or else the stand-in. -/
def orStand (stand : LineageSource) (t : Trail) : Trail :=
  if t.sources.isEmpty then ⟨[stand], t.cut⟩ else t

/-- Search for a column as it is seen at a node; `fuel` is how much deeper the search may go. -/
def trace (c : Chart) : Nat → ColumnRef → String → Trail
  | 0, col, _ => ⟨[], [col.name]⟩
  | fuel + 1, col, id =>
    match origin? c col with
    | some (.table source) => ⟨[source], []⟩
    | some (.named node inner stand) =>
      match inner with
      | none => ⟨[stand], []⟩
      | some inner =>
        if (given? inner.sourceColumn).isNone then ⟨[stand], []⟩
        else orStand stand (trace c fuel inner node)
    | none => above c (trace c fuel col) col id

/-- The first output of a graph, and the id of its node. -/
def output? (g : Graph) : Option (String × Output) :=
  g.nodes.findSome? fun n =>
    match n.data with
    | .output o => some (n.id, o)
    | _ => none

/-- The searches for all output columns, in order. -/
def trails (g : Graph) : List (String × Trail) :=
  match output? g with
  | none => []
  | some (id, o) =>
    let c := Chart.ofGraph g
    o.columns.map fun col => (col.name, trace c (g.nodes.length + 1) col id)

end Lineage

/-- The lineage of every column of the first output, in order; nothing for a graph without one. -/
def Graph.lineage (g : Graph) : List LineageEntry :=
  (Lineage.trails g).map fun (name, t) => ⟨name, t.sources⟩

end QueryFlow
