import QueryFlow.Lineage.Basic
import QueryFlow.Proofs.Builder.Sources

/-!
What a search for an output column does when node ids are distinct. A column that names its source
is answered by the first table of that name or alias in the whole graph, and otherwise by the first
result of that name; a column that names nothing known is searched along the edges. Where in a
query a name stands plays no part in this.
-/

namespace QueryFlow

/-- The name is the table's own or its alias. -/
def TableSource.knownAs (t : TableSource) (name : String) : Bool :=
  t.table == name || t.alias == some name

namespace Lineage

variable {g : Graph} {c : Chart}

theorem Chart.ofGraph_nodes (h : g.ids.Nodup) :
    (Chart.ofGraph g).nodes = g.nodes.map fun n => (n.id, n) := by
  have keys : ((g.nodes.map fun n => (n.id, n)).map Prod.fst).Nodup := by
    simpa [Graph.ids, List.map_map, Function.comp_def] using h
  exact Keyed.assignAll_of_nodup [] keys

/-- A name is looked up among all tables of the graph. -/
theorem Chart.table?_ofGraph (h : g.ids.Nodup) (name : String) :
    (Chart.ofGraph g).table? name = g.tables.find? (·.knownAs name) := by
  rw [Chart.table?, Chart.ofGraph_nodes h, Graph.tables, List.findSome?_map, ← List.head?_filter,
    List.filter_filterMap, List.head?_filterMap]
  congr 1
  funext n
  cases hd : n.data <;> simp [Node.table?, hd, Option.filter, TableSource.knownAs]

/-- A name is looked up among the results of all named queries. -/
theorem Chart.named?_ofGraph (h : g.ids.Nodup) (name : String) :
    (Chart.ofGraph g).named? name = g.results.find? (·.2.name == name) := by
  rw [Chart.named?, Chart.ofGraph_nodes h, Graph.results, List.findSome?_map, ← List.head?_filter,
    List.filter_filterMap, List.head?_filterMap]
  congr 1
  funext n
  cases hd : n.data <;> simp [Node.result?, hd, Option.filter]

theorem output?_eq_head? (g : Graph) : output? g = g.outputs.head? := by
  rw [output?, Graph.outputs, List.head?_filterMap]
  congr 1
  funext n
  cases hd : n.data <;> simp [Node.output?, hd]

/-- A search in the result of a named query. The result's name and the column stand for the origin
when that is not found. -/
def inResult (c : Chart) (fuel : Nat) (node : String) (r : NamedResult) (column : String) :
    Trail :=
  match r.columns.find? (·.name == column) with
  | none => ⟨[⟨r.name, column⟩], []⟩
  | some inner =>
    if (given? inner.sourceColumn).isNone then ⟨[⟨r.name, column⟩], []⟩
    else orStand ⟨r.name, column⟩ (trace c fuel inner node)

/-- A search along the edges alone. -/
def climb (c : Chart) (col : ColumnRef) : Nat → String → Trail
  | 0, _ => ⟨[], [col.name]⟩
  | fuel + 1, id => above c (climb c col fuel) col id

section Trace

variable {col : ColumnRef} {name column : String} {fuel : Nat} {id : String}

theorem trace_of_table (hn : given? col.sourceTable = some name)
    (hc : given? col.sourceColumn = some column) {t : TableSource} (ht : c.table? name = some t) :
    trace c (fuel + 1) col id = ⟨[⟨t.table, column⟩], []⟩ := by
  have origin : origin? c col = some (.table ⟨t.table, column⟩) := by
    simp only [origin?, hn, hc, ht]
  simp only [trace, origin]

theorem trace_of_named (hn : given? col.sourceTable = some name)
    (hc : given? col.sourceColumn = some column) (ht : c.table? name = none) {node : String}
    {r : NamedResult} (hr : c.named? name = some (node, r)) (same : r.name = name) :
    trace c (fuel + 1) col id = inResult c fuel node r column := by
  have origin : origin? c col = some (.named node (r.columns.find? (·.name == column))
      ⟨r.name, column⟩) := by
    simp only [origin?, hn, hc, ht, hr, same, Option.map_some]
  rw [trace, origin]
  rfl

/-- The origin does not depend on the place, so a column without one is searched along the edges
all the way. -/
theorem trace_of_no_origin (h : origin? c col = none) :
    trace c fuel col id = climb c col fuel id := by
  induction fuel generalizing id with
  | zero => rfl
  | succ fuel ih =>
    have steps : trace c fuel col = climb c col fuel := funext fun _ => ih
    simp only [trace, h, climb, steps]

end Trace

end Lineage

namespace Graph

/-- What is found for a column as it is seen at the output. -/
def sourcesOf (g : Graph) (col : ColumnRef) : List LineageSource :=
  match g.outputs with
  | [] => []
  | (id, _) :: _ => (Lineage.trace (.ofGraph g) (g.nodes.length + 1) col id).sources

/-- What is found for a column along the edges that lead to the output. -/
def climbed (g : Graph) (col : ColumnRef) : List LineageSource :=
  match g.outputs with
  | [] => []
  | (id, _) :: _ => (Lineage.climb (.ofGraph g) col (g.nodes.length + 1) id).sources

/-- What is found for a column of a result that is reached from the output in one step. -/
def through (g : Graph) (node : String) (r : NamedResult) (column : String) :
    List LineageSource :=
  (Lineage.inResult (.ofGraph g) g.nodes.length node r column).sources

variable {g : Graph} {id : String} {output : Output}

theorem lineage_eq (ho : g.outputs = [(id, output)]) :
    g.lineage = output.columns.map fun col => ⟨col.name, g.sourcesOf col⟩ := by
  simp [lineage, Lineage.trails, Lineage.output?_eq_head?, ho, sourcesOf, Function.comp_def]

section Qualified

variable {col : ColumnRef} {name column : String} (h : g.ids.Nodup)
  (ho : g.outputs = [(id, output)]) (hn : Lineage.given? col.sourceTable = some name)
  (hc : Lineage.given? col.sourceColumn = some column)

include h ho hn hc

/-- The first table of the name answers. -/
theorem sourcesOf_table {t : TableSource} (ht : g.tables.find? (·.knownAs name) = some t) :
    g.sourcesOf col = [⟨t.table, column⟩] := by
  rw [← Lineage.Chart.table?_ofGraph h] at ht
  simp only [sourcesOf, ho, Lineage.trace_of_table hn hc ht]

/-- Without such a table, the first result of the name answers. -/
theorem sourcesOf_result (ht : g.tables.find? (·.knownAs name) = none) {node : String}
    {r : NamedResult} (hr : g.results.find? (·.2.name == name) = some (node, r)) :
    g.sourcesOf col = g.through node r column := by
  have same : r.name = name := by simpa using List.find?_some hr
  rw [← Lineage.Chart.table?_ofGraph h] at ht
  rw [← Lineage.Chart.named?_ofGraph h] at hr
  simp only [sourcesOf, ho, through, Lineage.trace_of_named hn hc ht hr same]

/-- Without either, the edges answer. -/
theorem sourcesOf_unknown (ht : g.tables.find? (·.knownAs name) = none)
    (hr : g.results.find? (·.2.name == name) = none) : g.sourcesOf col = g.climbed col := by
  rw [← Lineage.Chart.table?_ofGraph h] at ht
  rw [← Lineage.Chart.named?_ofGraph h] at hr
  have origin : Lineage.origin? (.ofGraph g) col = none := by
    simp only [Lineage.origin?, hn, hc, ht, hr, Option.map_none]
  simp only [sourcesOf, climbed, ho, Lineage.trace_of_no_origin origin]

end Qualified

/-- A column whose name is empty names no origin. -/
theorem sourcesOf_unnamed {col : ColumnRef} (hc : Lineage.given? col.sourceColumn = none) :
    g.sourcesOf col = g.climbed col := by
  have origin : Lineage.origin? (.ofGraph g) col = none := by
    unfold Lineage.origin?
    rw [hc]
    cases Lineage.given? col.sourceTable <;> rfl
  simp only [sourcesOf, climbed, Lineage.trace_of_no_origin origin]

end Graph

end QueryFlow
