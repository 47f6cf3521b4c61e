import QueryFlow.Drawing
import QueryFlow.Query.Flow

/-!
Reports on the statements of a file, as text and as JSON. Every statement has its report, in order
and numbered from one; one that is no query has the reason in place of a report.
-/

namespace QueryFlow.CommandLine

/-- What came of a statement: its graph, with positions if they were asked for, or a reason. -/
structure Result where
  number : Nat
  flow : Except FlowFault Graph
  positions : Layout.Positions Float := []

namespace Report

def tableText (t : TableSource) : String :=
  t.table ++ match t.alias.bind nonEmpty? with
    | some a => " AS " ++ a
    | none => ""

def describe : NodeData → String
  | .table t => tableText t
  | .named r => r.name
  | .group g => g.name
  | .join j => if j.condition.isEmpty then j.type.label else j.type.label ++ " ON " ++ j.condition
  | .filter f => f.condition
  | .aggregation a => ", ".intercalate (a.groupBy ++ a.aggregates)
  | .output o => ", ".intercalate (o.columns.map (·.name))

def padded (width : Nat) (s : String) : String :=
  s ++ String.ofList (List.replicate (width - s.length) ' ')

def nodeLine (n : Node) : String :=
  let group := match n.parent.bind nonEmpty? with
    | some p => "  (in " ++ p ++ ")"
    | none => ""
  "   • " ++ padded 14 n.id ++ " " ++ padded 12 n.kind.name ++ " " ++ describe n.data ++ group

def edgeLine (e : Edge) : String :=
  let columns := e.columns.getD []
  let shown := if columns.isEmpty then "" else "  [" ++ ", ".intercalate columns ++ "]"
  "   " ++ e.source ++ " ──▶ " ++ e.target ++ shown

def graphLines (g : Graph) : List String :=
  ("📊 Nodes: " ++ toString g.nodes.length) :: g.nodes.map nodeLine
    ++ ["", "🔗 Edges: " ++ toString g.edges.length] ++ g.edges.map edgeLine

def lineageLines (g : Graph) : List String :=
  ["", "🔬 Column lineage:"] ++ g.lineage.map (fun e => "   " ++ e.line) ++ [""]

def textLines (onlyLineage : Bool) (r : Result) : List String :=
  ["", "── Statement " ++ toString r.number ++ " ──"] ++
  match r.flow with
  | .error f => ["   ⚠️  " ++ f.message]
  | .ok g => (if onlyLineage then [] else graphLines g) ++ lineageLines g

def text (onlyLineage : Bool) (rs : List Result) : String :=
  String.join ((rs.flatMap (textLines onlyLineage)).map (· ++ "\n"))

def fields (onlyLineage : Bool) (r : Result) : List (String × Json) :=
  match r.flow with
  | .error f => [("error", .string f.message)]
  | .ok g =>
    if onlyLineage then [("lineage", .array (g.lineage.map LineageEntry.toJson))]
    else (Drawing.ofGraph g r.positions (some g.lineage)).fields

def toJson (onlyLineage : Bool) (r : Result) : Json :=
  .object (("statement", .int r.number) :: fields onlyLineage r)

def json (onlyLineage : Bool) (rs : List Result) : Json := .array (rs.map (toJson onlyLineage))

end Report

end QueryFlow.CommandLine
