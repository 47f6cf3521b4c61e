import QueryFlow.Graph.Exchange
import QueryFlow.Proofs.Json.Records

/-!
Flow graphs that are written and read again. Each part of a graph is a record, and what is sent out
is one of the ways to write it; another has the second spelling of all names, with nulls or without.
The main statement says that a graph reads as itself from all of these, and that to read and write
any accepted value once more changes nothing. Unknown fields and other spellings of values, which
reading accepts too, are not looked at.
-/

namespace QueryFlow

open Form

def ColumnRef.record (c : ColumnRef) : Record :=
  [(Exchange.name, some (.string c.name)), (Exchange.sourceTable, c.sourceTable.map .string),
    (Exchange.sourceColumn, c.sourceColumn.map .string),
    (Exchange.dataType, c.dataType.map .string)]

def ColumnRef.dump (s : Style) (c : ColumnRef) : Json := s.write c.record

def dumpColumns (s : Style) (cs : List ColumnRef) : Json := .array (cs.map (ColumnRef.dump s))

/-- The payload as a record, its kind first. -/
def NodeData.record (s : Style) (d : NodeData) : Record :=
  (Exchange.kind, some (.string d.kind.name)) ::
    match d with
    | .table t =>
      [(Exchange.tableName, some (.string t.table)), (Exchange.alias, t.alias.map .string),
        (Exchange.columns, some (dumpColumns s t.columns)),
        (Exchange.colorIndex, some (.int t.colorIndex))]
    | .named r =>
      [(Exchange.cteName, some (.string r.name)),
        (Exchange.outputColumns, some (dumpColumns s r.columns)),
        (Exchange.hasWhere, some (.bool r.hasWhere)),
        (Exchange.hasGroupBy, some (.bool r.hasGroupBy)),
        (Exchange.colorIndex, some (.int r.colorIndex))]
    | .group g =>
      [(Exchange.cteName, some (.string g.name)), (Exchange.colorIndex, some (.int g.colorIndex))]
    | .join j =>
      [(Exchange.joinType, some (.string j.type.label)),
        (Exchange.condition, some (.string j.condition))]
    | .filter f => [(Exchange.condition, some (.string f.condition))]
    | .aggregation a =>
      [(Exchange.groupByColumns, some (.ofStrings a.groupBy)),
        (Exchange.aggregates, some (.ofStrings a.aggregates))]
    | .output o =>
      [(Exchange.columns, some (dumpColumns s o.columns)),
        (Exchange.orderBy, o.orderBy.map .string), (Exchange.limit, o.limit.map .int),
        (Exchange.colorMap, o.colorMap.map colorMapToJson)]

/-- The payload, written in a style. -/
def NodeData.dump (s : Style) (d : NodeData) : Json := s.write (d.record s)

def Node.record (s : Style) (n : Node) : Record :=
  [(Exchange.id, some (.string n.id)), (Exchange.data, some (n.data.dump s)),
    (Exchange.parent, n.parent.map .string)]

def Node.dump (s : Style) (n : Node) : Json := s.write (n.record s)

def Edge.record (e : Edge) : Record :=
  [(Exchange.id, some (.string e.id)), (Exchange.source, some (.string e.source)),
    (Exchange.target, some (.string e.target)), (Exchange.columns, e.columns.map .ofStrings),
    (Exchange.label, e.label.map .string), (Exchange.animated, e.animated.map .bool)]

def Edge.dump (s : Style) (e : Edge) : Json := s.write e.record

def Graph.record (s : Style) (g : Graph) : Record :=
  [(Exchange.nodes, some (.array (g.nodes.map (Node.dump s)))),
    (Exchange.edges, some (.array (g.edges.map (Edge.dump s))))]

def Graph.dump (s : Style) (g : Graph) : Json := s.write (g.record s)

section Wire

theorem ColumnRef.dump_wire (c : ColumnRef) : c.dump .wire = c.toJson := wire_write c.record

theorem dumpColumns_wire (cs : List ColumnRef) : dumpColumns .wire cs = columnsToJson cs :=
  congrArg Json.array (List.map_congr_left fun c _ => c.dump_wire)

theorem NodeData.dump_wire (d : NodeData) : d.dump .wire = d.toJson := by
  rw [dump, wire_write]
  cases d <;> simp only [record, dumpColumns_wire] <;> rfl

theorem Node.dump_wire (n : Node) : n.dump .wire = n.toJson := by
  rw [dump, wire_write, record, NodeData.dump_wire]
  rfl

theorem Edge.dump_wire (e : Edge) : e.dump .wire = e.toJson := wire_write e.record

theorem Graph.dump_wire (g : Graph) : g.dump .wire = g.toJson := by
  rw [dump, wire_write, record, List.map_congr_left fun n _ => Node.dump_wire n,
    List.map_congr_left fun e _ => Edge.dump_wire e]
  rfl

end Wire

variable (s : Style)

theorem ColumnRef.reads : Reads ColumnRef.ofJson (ColumnRef.dump s) := by
  refine ⟨fun c => ?_, nofun⟩
  have apart : Separate c.record := (by decide : [Exchange.name, Exchange.sourceTable,
    Exchange.sourceColumn, Exchange.dataType].Pairwise Apart)
  rw [ofJson, dump, fieldsOf_write, required_back string_reads apart 0 rfl,
    optional_back string_reads apart 1 rfl, optional_back string_reads apart 2 rfl,
    optional_back string_reads apart 3 rfl]
  rfl

theorem JoinType.reads : Reads JoinType.ofJson fun t => .string t.label := by
  refine ⟨fun t => ?_, nofun⟩
  rw [ofJson, JoinType.ofLabel?_label]

theorem NodeData.separate (d : NodeData) : Separate (d.record s) := by
  cases d with
  | table t =>
    exact (by decide : [Exchange.kind, Exchange.tableName, Exchange.alias, Exchange.columns,
      Exchange.colorIndex].Pairwise Apart)
  | named r =>
    exact (by decide : [Exchange.kind, Exchange.cteName, Exchange.outputColumns, Exchange.hasWhere,
      Exchange.hasGroupBy, Exchange.colorIndex].Pairwise Apart)
  | group g =>
    exact (by decide : [Exchange.kind, Exchange.cteName, Exchange.colorIndex].Pairwise Apart)
  | join j =>
    exact (by decide : [Exchange.kind, Exchange.joinType, Exchange.condition].Pairwise Apart)
  | filter f => exact (by decide : [Exchange.kind, Exchange.condition].Pairwise Apart)
  | aggregation a =>
    exact (by decide : [Exchange.kind, Exchange.groupByColumns, Exchange.aggregates].Pairwise Apart)
  | output o =>
    exact (by decide : [Exchange.kind, Exchange.columns, Exchange.orderBy, Exchange.limit,
      Exchange.colorMap].Pairwise Apart)

/-- The fields of a payload read as the payload, when its kind is known. -/
theorem NodeData.ofFields_record (d : NodeData) :
    ofFields d.kind (s.fields (d.record s)) = .ok d := by
  have apart := d.separate s
  have columns := list_reads (ColumnRef.reads s)
  have strings := list_reads string_reads
  cases d with
  | table t =>
    rw [kind, ofFields, required_back string_reads apart 1 rfl,
      optional_back string_reads apart 2 rfl, withDefault_back columns apart 3 rfl,
      withDefault_back int_reads apart 4 rfl]
    rfl
  | named r =>
    rw [kind, ofFields, required_back string_reads apart 1 rfl,
      withDefault_back columns apart 2 rfl, withDefault_back bool_reads apart 3 rfl,
      withDefault_back bool_reads apart 4 rfl, withDefault_back int_reads apart 5 rfl]
    rfl
  | group g =>
    rw [kind, ofFields, required_back string_reads apart 1 rfl,
      withDefault_back int_reads apart 2 rfl]
    rfl
  | join j =>
    rw [kind, ofFields, withDefault_back JoinType.reads apart 1 rfl,
      withDefault_back string_reads apart 2 rfl]
    rfl
  | filter f =>
    rw [kind, ofFields, required_back string_reads apart 1 rfl]
    rfl
  | aggregation a =>
    rw [kind, ofFields, withDefault_back strings apart 1 rfl, withDefault_back strings apart 2 rfl]
    rfl
  | output o =>
    rw [kind, ofFields, withDefault_back columns apart 1 rfl,
      optional_back string_reads apart 2 rfl, optional_back int_reads apart 3 rfl,
      optional_back (dict_reads int_reads) apart 4 rfl]
    rfl

theorem NodeData.reads : Reads NodeData.ofJson (NodeData.dump s) := by
  refine ⟨fun d => ?_, nofun⟩
  have kind : (s.fields (d.record s)).lookup Exchange.kind.camel = some (.string d.kind.name) := by
    unfold record
    rw [fields_cons]
    cases hs : s.snake <;> simp [Style.value?, Style.spelled, hs, Exchange.kind, Key.plain]
  rw [ofJson, dump, fieldsOf_write, kind]
  simp only [NodeKind.ofName?_name, ofFields_record]
  rfl

theorem Node.reads : Reads Node.ofJson (Node.dump s) := by
  refine ⟨fun n => ?_, nofun⟩
  have apart : Separate (n.record s) := (by decide : [Exchange.id, Exchange.data,
    Exchange.parent].Pairwise Apart)
  rw [ofJson, dump, fieldsOf_write, required_back string_reads apart 0 rfl,
    required_back (NodeData.reads s) apart 1 rfl, optional_back string_reads apart 2 rfl]
  rfl

theorem Edge.reads : Reads Edge.ofJson (Edge.dump s) := by
  refine ⟨fun e => ?_, nofun⟩
  have apart : Separate e.record := (by decide : [Exchange.id, Exchange.source, Exchange.target,
    Exchange.columns, Exchange.label, Exchange.animated].Pairwise Apart)
  rw [ofJson, dump, fieldsOf_write, required_back string_reads apart 0 rfl,
    required_back string_reads apart 1 rfl, required_back string_reads apart 2 rfl,
    optional_back (list_reads string_reads) apart 3 rfl, optional_back string_reads apart 4 rfl,
    optional_back bool_reads apart 5 rfl]
  rfl

theorem Graph.reads : Reads Graph.ofJson (Graph.dump s) := by
  refine ⟨fun g => ?_, nofun⟩
  have apart : Separate (g.record s) :=
    (by decide : [Exchange.nodes, Exchange.edges].Pairwise Apart)
  rw [ofJson, dump, fieldsOf_write, withDefault_back (list_reads (Node.reads s)) apart 0 rfl,
    withDefault_back (list_reads (Edge.reads s)) apart 1 rfl]
  rfl

/-- A value is read as a graph and written again. -/
def Graph.rewritten (j : Json) : Checked Json := (Graph.ofJson j).map Graph.toJson

/-- A graph reads as itself from what is sent out and from the second spelling, with nulls or
without. Any value that is accepted becomes one that reading and writing leave as it is. -/
theorem Graph.json_round_trip :
    (∀ g : Graph, Graph.ofJson g.toJson = .ok g) ∧
    (∀ (g : Graph) (nulls : Bool), Graph.ofJson (g.dump ⟨true, nulls⟩) = .ok g) ∧
    ∀ j j', Graph.rewritten j = .ok j' → Graph.rewritten j' = .ok j' := by
  have back : ∀ g : Graph, Graph.ofJson g.toJson = .ok g := by
    intro g
    rw [← g.dump_wire]
    exact (Graph.reads .wire).back g
  refine ⟨back, fun g nulls => (Graph.reads ⟨true, nulls⟩).back g, ?_⟩
  intro j j' written
  unfold Graph.rewritten at written ⊢
  cases accepted : Graph.ofJson j with
  | error problems => simp [accepted, Except.map] at written
  | ok g =>
    rw [accepted] at written
    obtain rfl : g.toJson = j' := Except.ok.inj written
    rw [back g]
    rfl

end QueryFlow
