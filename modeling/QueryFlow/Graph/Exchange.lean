import QueryFlow.Graph.Basic
import QueryFlow.Lineage.Basic
import QueryFlow.Json.Form

/-!
Flow graphs and lineage as JSON. Fields without a value are left out of what is written.
-/

namespace QueryFlow

open Form

namespace Exchange

def id : Key := .plain "id"
def name : Key := .plain "name"
def kind : Key := .plain "kind"
def data : Key := .plain "data"
def parent : Key := ⟨"parentCteId", "parent_cte_id"⟩
def sourceTable : Key := ⟨"sourceTable", "source_table"⟩
def sourceColumn : Key := ⟨"sourceColumn", "source_column"⟩
def dataType : Key := ⟨"dataType", "data_type"⟩
def tableName : Key := ⟨"tableName", "table_name"⟩
def «alias» : Key := .plain "alias"
def columns : Key := .plain "columns"
def colorIndex : Key := ⟨"colorIndex", "color_index"⟩
def cteName : Key := ⟨"cteName", "cte_name"⟩
def outputColumns : Key := ⟨"outputColumns", "output_columns"⟩
def hasWhere : Key := ⟨"hasWhere", "has_where"⟩
def hasGroupBy : Key := ⟨"hasGroupBy", "has_group_by"⟩
def joinType : Key := ⟨"joinType", "join_type"⟩
def condition : Key := .plain "condition"
def groupByColumns : Key := ⟨"groupByColumns", "group_by_columns"⟩
def aggregates : Key := .plain "aggregates"
def orderBy : Key := ⟨"orderBy", "order_by"⟩
def limit : Key := .plain "limit"
def colorMap : Key := ⟨"tableColorMap", "table_color_map"⟩
def source : Key := .plain "source"
def target : Key := .plain "target"
def label : Key := .plain "label"
def animated : Key := .plain "animated"
def nodes : Key := .plain "nodes"
def edges : Key := .plain "edges"
def outputColumn : Key := ⟨"outputColumn", "output_column"⟩
def sources : Key := .plain "sources"
def table : Key := .plain "table"
def column : Key := .plain "column"

end Exchange

def ColumnRef.toJson (c : ColumnRef) : Json :=
  .ofPresent
    [(Exchange.name.camel, some (.string c.name)),
     (Exchange.sourceTable.camel, c.sourceTable.map .string),
     (Exchange.sourceColumn.camel, c.sourceColumn.map .string),
     (Exchange.dataType.camel, c.dataType.map .string)]

def columnsToJson (cs : List ColumnRef) : Json := .array (cs.map ColumnRef.toJson)

def colorMapToJson (m : List (String × Int)) : Json := .object (m.map fun (k, v) => (k, .int v))

def NodeData.fields : NodeData → List (String × Option Json)
  | .table t =>
    [(Exchange.tableName.camel, some (.string t.table)),
     (Exchange.alias.camel, t.alias.map .string),
     (Exchange.columns.camel, some (columnsToJson t.columns)),
     (Exchange.colorIndex.camel, some (.int t.colorIndex))]
  | .named r =>
    [(Exchange.cteName.camel, some (.string r.name)),
     (Exchange.outputColumns.camel, some (columnsToJson r.columns)),
     (Exchange.hasWhere.camel, some (.bool r.hasWhere)),
     (Exchange.hasGroupBy.camel, some (.bool r.hasGroupBy)),
     (Exchange.colorIndex.camel, some (.int r.colorIndex))]
  | .group g =>
    [(Exchange.cteName.camel, some (.string g.name)),
     (Exchange.colorIndex.camel, some (.int g.colorIndex))]
  | .join j =>
    [(Exchange.joinType.camel, some (.string j.type.label)),
     (Exchange.condition.camel, some (.string j.condition))]
  | .filter f => [(Exchange.condition.camel, some (.string f.condition))]
  | .aggregation a =>
    [(Exchange.groupByColumns.camel, some (.ofStrings a.groupBy)),
     (Exchange.aggregates.camel, some (.ofStrings a.aggregates))]
  | .output o =>
    [(Exchange.columns.camel, some (columnsToJson o.columns)),
     (Exchange.orderBy.camel, o.orderBy.map .string),
     (Exchange.limit.camel, o.limit.map .int),
     (Exchange.colorMap.camel, o.colorMap.map colorMapToJson)]

/-- The payload as JSON, its kind first. -/
def NodeData.toJson (d : NodeData) : Json :=
  .ofPresent ((Exchange.kind.camel, some (.string d.kind.name)) :: d.fields)

def Node.toJson (n : Node) : Json :=
  .ofPresent
    [(Exchange.id.camel, some (.string n.id)),
     (Exchange.data.camel, some n.data.toJson),
     (Exchange.parent.camel, n.parent.map .string)]

def Edge.toJson (e : Edge) : Json :=
  .ofPresent
    [(Exchange.id.camel, some (.string e.id)),
     (Exchange.source.camel, some (.string e.source)),
     (Exchange.target.camel, some (.string e.target)),
     (Exchange.columns.camel, e.columns.map .ofStrings),
     (Exchange.label.camel, e.label.map .string),
     (Exchange.animated.camel, e.animated.map .bool)]

def Graph.toJson (g : Graph) : Json :=
  .object [(Exchange.nodes.camel, .array (g.nodes.map Node.toJson)),
    (Exchange.edges.camel, .array (g.edges.map Edge.toJson))]

def ColumnRef.ofJson (j : Json) : Checked ColumnRef := do
  let fs ← fieldsOf .modelType j
  (((required Exchange.name string fs).map ColumnRef.mk
    |> (also · (withDefault Exchange.sourceTable (optional string) none fs)))
    |> (also · (withDefault Exchange.sourceColumn (optional string) none fs)))
    |> (also · (withDefault Exchange.dataType (optional string) none fs))

def JoinType.ofJson : Json → Checked JoinType
  | .string s =>
    match JoinType.ofLabel? s with
    | some t => .ok t
    | none => refuse .literalError
  | _ => refuse .literalError

def NodeData.ofFields (kind : NodeKind) (fs : List (String × Json)) : Checked NodeData :=
  match kind with
  | .table =>
    ((((required Exchange.tableName string fs).map TableSource.mk
      |> (also · (withDefault Exchange.alias (optional string) none fs)))
      |> (also · (withDefault Exchange.columns (list ColumnRef.ofJson) [] fs)))
      |> (also · (withDefault Exchange.colorIndex int 0 fs))).map .table
  | .named =>
    (((((required Exchange.cteName string fs).map NamedResult.mk
      |> (also · (withDefault Exchange.outputColumns (list ColumnRef.ofJson) [] fs)))
      |> (also · (withDefault Exchange.hasWhere bool false fs)))
      |> (also · (withDefault Exchange.hasGroupBy bool false fs)))
      |> (also · (withDefault Exchange.colorIndex int 0 fs))).map .named
  | .group =>
    ((required Exchange.cteName string fs).map NamedGroup.mk
      |> (also · (withDefault Exchange.colorIndex int 0 fs))).map .group
  | .join =>
    ((withDefault Exchange.joinType JoinType.ofJson .inner fs).map Join.mk
      |> (also · (withDefault Exchange.condition string "" fs))).map .join
  | .filter => ((required Exchange.condition string fs).map Filter.mk).map .filter
  | .aggregation =>
    ((withDefault Exchange.groupByColumns (list string) [] fs).map Aggregation.mk
      |> (also · (withDefault Exchange.aggregates (list string) [] fs))).map .aggregation
  | .output =>
    ((((withDefault Exchange.columns (list ColumnRef.ofJson) [] fs).map Output.mk
      |> (also · (withDefault Exchange.orderBy (optional string) none fs)))
      |> (also · (withDefault Exchange.limit (optional int) none fs)))
      |> (also · (withDefault Exchange.colorMap (optional (dict int)) none fs))).map .output

/-- A payload from JSON; its kind decides about its fields. -/
def NodeData.ofJson (j : Json) : Checked NodeData := do
  let fs ← fieldsOf .modelAttributesType j
  match fs.lookup Exchange.kind.camel with
  | none => refuse .unionTagNotFound
  | some (.string s) =>
    match NodeKind.ofName? s with
    | some k => under (.key s) (NodeData.ofFields k fs)
    | none => refuse .unionTagInvalid
  | some _ => refuse .unionTagInvalid

def Node.ofJson (j : Json) : Checked Node := do
  let fs ← fieldsOf .modelType j
  (((required Exchange.id string fs).map Node.mk
    |> (also · (required Exchange.data NodeData.ofJson fs)))
    |> (also · (withDefault Exchange.parent (optional string) none fs)))

def Edge.ofJson (j : Json) : Checked Edge := do
  let fs ← fieldsOf .modelType j
  ((((((required Exchange.id string fs).map Edge.mk
    |> (also · (required Exchange.source string fs)))
    |> (also · (required Exchange.target string fs)))
    |> (also · (withDefault Exchange.columns (optional (list string)) none fs)))
    |> (also · (withDefault Exchange.label (optional string) none fs)))
    |> (also · (withDefault Exchange.animated (optional bool) none fs)))

def Graph.ofJson (j : Json) : Checked Graph := do
  let fs ← fieldsOf .modelType j
  (withDefault Exchange.nodes (list Node.ofJson) [] fs).map Graph.mk
    |> (also · (withDefault Exchange.edges (list Edge.ofJson) [] fs))

def LineageSource.toJson (s : LineageSource) : Json :=
  .object [(Exchange.table.camel, .string s.table), (Exchange.column.camel, .string s.column)]

def LineageEntry.toJson (e : LineageEntry) : Json :=
  .object [(Exchange.outputColumn.camel, .string e.output),
    (Exchange.sources.camel, .array (e.sources.map LineageSource.toJson))]

def LineageSource.ofJson (j : Json) : Checked LineageSource := do
  let fs ← fieldsOf .modelType j
  (required Exchange.table string fs).map LineageSource.mk
    |> (also · (required Exchange.column string fs))

def LineageEntry.ofJson (j : Json) : Checked LineageEntry := do
  let fs ← fieldsOf .modelType j
  (required Exchange.outputColumn string fs).map LineageEntry.mk
    |> (also · (withDefault Exchange.sources (list LineageSource.ofJson) [] fs))

end QueryFlow
