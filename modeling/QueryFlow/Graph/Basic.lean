import QueryFlow.Query.Selection

/-!
Flow graphs: nodes for the steps of a query and edges along which rows flow. Nothing here says that
a graph is well formed; see the integrity module for that.
-/

namespace QueryFlow

/-- A column as it appears at some point of the flow. Its source is only set where the query itself
names it. -/
structure ColumnRef where
  name : String
  sourceTable : Option String := none
  sourceColumn : Option String := none
  dataType : Option String := none
  deriving Repr, DecidableEq

structure TableSource where
  table : String
  «alias» : Option String := none
  columns : List ColumnRef := []
  colorIndex : Int := 0
  deriving Repr, DecidableEq

structure NamedResult where
  name : String
  columns : List ColumnRef := []
  hasWhere : Bool := false
  hasGroupBy : Bool := false
  colorIndex : Int := 0
  deriving Repr, DecidableEq

/-- The frame around the nodes of a named query. -/
structure NamedGroup where
  name : String
  colorIndex : Int := 0
  deriving Repr, DecidableEq

/-- Rows of two inputs side by side. -/
structure Join where
  type : JoinType := .inner
  condition : String := ""
  deriving Repr, DecidableEq

/-- Rows that satisfy a condition. -/
structure Filter where
  condition : String
  deriving Repr, DecidableEq

/-- One row for each group of rows. -/
structure Aggregation where
  groupBy : List String := []
  aggregates : List String := []
  deriving Repr, DecidableEq

/-- The rows that a query answers. -/
structure Output where
  columns : List ColumnRef := []
  orderBy : Option String := none
  limit : Option Int := none
  colorMap : Option (List (String × Int)) := none
  deriving Repr, DecidableEq

inductive NodeData where
  | table (source : TableSource)
  | named (result : NamedResult)
  | group (frame : NamedGroup)
  | join (join : Join)
  | filter (filter : Filter)
  | aggregation (aggregation : Aggregation)
  | output (output : Output)
  deriving Repr, DecidableEq

inductive NodeKind where
  | table | named | group | join | filter | aggregation | output
  deriving Repr, DecidableEq

namespace NodeKind

def name : NodeKind → String
  | table => "table-source"
  | named => "cte"
  | group => "cte-group"
  | join => "join"
  | filter => "filter"
  | aggregation => "aggregation"
  | output => "output"

def all : List NodeKind := [table, named, group, join, filter, aggregation, output]

def ofName? (s : String) : Option NodeKind := all.find? (·.name == s)

theorem ofName?_name (k : NodeKind) : ofName? k.name = some k := by cases k <;> decide

end NodeKind

def NodeData.kind : NodeData → NodeKind
  | .table _ => .table
  | .named _ => .named
  | .group _ => .group
  | .join _ => .join
  | .filter _ => .filter
  | .aggregation _ => .aggregation
  | .output _ => .output

def NodeData.colorIndex? : NodeData → Option Int
  | .table t => some t.colorIndex
  | .named r => some r.colorIndex
  | .group g => some g.colorIndex
  | _ => none

/-- A node. Its parent is the group that it belongs to. -/
structure Node where
  id : String
  data : NodeData
  parent : Option String := none
  deriving Repr, DecidableEq

def Node.kind (n : Node) : NodeKind := n.data.kind

/-- The node is the frame of a named query. -/
def Node.isGroup (n : Node) : Bool := n.kind == .group

/-- Rows of the source flow into the target. -/
structure Edge where
  id : String
  source : String
  target : String
  columns : Option (List String) := none
  label : Option String := none
  animated : Option Bool := none
  deriving Repr, DecidableEq

structure Graph where
  nodes : List Node := []
  edges : List Edge := []
  deriving Repr, DecidableEq

namespace Graph

def node? (g : Graph) (id : String) : Option Node := g.nodes.find? (·.id == id)

def ofKind (g : Graph) (kind : String) : List Node := g.nodes.filter (·.kind.name == kind)

def incoming (g : Graph) (id : String) : List Edge := g.edges.filter (·.target == id)

def outgoing (g : Graph) (id : String) : List Edge := g.edges.filter (·.source == id)

def childrenOf (g : Graph) (group : String) : List Node := g.nodes.filter (·.parent == some group)

end Graph

end QueryFlow
