import QueryFlow.Graph.Basic

/-!
A flow graph by the kinds of its nodes: its tables, the frames and results of its named queries, and
its outputs, each in the order of the nodes.
-/

namespace QueryFlow

/-- The node is part of a SELECT, and not the frame or the result of one. -/
def NodeKind.isInner : NodeKind → Bool
  | .table | .join | .filter | .aggregation => true
  | .named | .group | .output => false

namespace Node

def table? (n : Node) : Option TableSource :=
  match n.data with
  | .table t => some t
  | _ => none

/-- The result of a named query that a node stands for. -/
def result? (n : Node) : Option NamedResult :=
  match n.data with
  | .named r => some r
  | _ => none

def frame? (n : Node) : Option NamedGroup :=
  match n.data with
  | .group g => some g
  | _ => none

def output? (n : Node) : Option Output :=
  match n.data with
  | .output o => some o
  | _ => none

variable {n : Node}

theorem table?_eq_none_iff : n.table? = none ↔ n.kind ≠ .table := by
  unfold table? kind
  cases n.data <;> simp [NodeData.kind]

theorem result?_eq_none_iff : n.result? = none ↔ n.kind ≠ .named := by
  unfold result? kind
  cases n.data <;> simp [NodeData.kind]

theorem frame?_eq_none_iff : n.frame? = none ↔ n.kind ≠ .group := by
  unfold frame? kind
  cases n.data <;> simp [NodeData.kind]

theorem output?_eq_none_iff : n.output? = none ↔ n.kind ≠ .output := by
  unfold output? kind
  cases n.data <;> simp [NodeData.kind]

end Node

/-- The tables of a graph, in the order of their nodes. -/
def Graph.tables (g : Graph) : List TableSource := g.nodes.filterMap Node.table?

/-- The results of the named queries of a graph with the ids of their nodes, in order. -/
def Graph.results (g : Graph) : List (String × NamedResult) :=
  g.nodes.filterMap fun n => n.result?.map (n.id, ·)

/-- The frames of the named queries of a graph, in order. -/
def Graph.frames (g : Graph) : List NamedGroup := g.nodes.filterMap Node.frame?

/-- The outputs of a graph with the ids of their nodes, in order. -/
def Graph.outputs (g : Graph) : List (String × Output) :=
  g.nodes.filterMap fun n => n.output?.map (n.id, ·)

theorem Graph.mem_results {g : Graph} {id : String} {r : NamedResult} :
    (id, r) ∈ g.results ↔ ∃ n ∈ g.nodes, n.id = id ∧ n.data = .named r := by
  simp only [results, List.mem_filterMap, Option.map_eq_some_iff, Prod.mk.injEq]
  constructor
  · rintro ⟨n, hn, _, hr, rfl, rfl⟩
    refine ⟨n, hn, rfl, ?_⟩
    unfold Node.result? at hr
    split at hr
    · next hd => rw [hd, Option.some.inj hr]
    · cases hr
  · rintro ⟨n, hn, rfl, hd⟩
    exact ⟨n, hn, r, by rw [Node.result?, hd], rfl, rfl⟩

/-- What a query says about a table node: the table and the alias. -/
def TableSource.mention (t : TableSource) : String × Option String := (t.table, t.alias)

/-- What an entry says about a table node. -/
def FromEntry.mention (e : FromEntry) : String × Option String := (e.table, e.alias)

end QueryFlow
