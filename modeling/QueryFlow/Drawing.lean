import QueryFlow.Graph.Exchange
import QueryFlow.Layout.Answer
import QueryFlow.Palette

/-!
Drawings: a graph with its boxes, colors and lineage, ready for a renderer. Groups come before all
other nodes, so a parent is always known before its children.
-/

namespace QueryFlow

open Layout

structure DrawnNode where
  id : String
  data : NodeData
  box : Box Float
  parent : Option String

/-- A drawing. The lineage is left out when it was not asked for. -/
structure Drawing where
  nodes : List DrawnNode
  edges : List Edge
  lineage : Option (List LineageEntry)

namespace Drawing

/-- The box of a node without a position. -/
def spareBox : Box Float := ⟨0, 0, 220, 60⟩

def groupsFirst (nodes : List Node) : List Node :=
  nodes.filter Node.isGroup ++ nodes.filter (!·.isGroup)

def drawnNode (positions : Positions Float) (n : Node) : DrawnNode :=
  ⟨n.id, n.data, (positions.lookup n.id).getD spareBox, n.parent.bind nonEmpty?⟩

def ofGraph (g : Graph) (positions : Positions Float) (lineage : Option (List LineageEntry)) :
    Drawing :=
  ⟨(groupsFirst g.nodes).map (drawnNode positions), g.edges, lineage⟩

def dataToJson (d : NodeData) : Json :=
  let color := d.colorIndex?.map fun i => (Color.ofIndex i).toJson
  .ofPresent ((Exchange.kind.camel, some (.string d.kind.name)) :: d.fields ++ [("color", color)])

def nodeToJson (n : DrawnNode) : Json :=
  .ofPresent
    [("id", some (.string n.id)),
     ("type", some (.string n.data.kind.name)),
     ("position", some (.object [("x", .float n.box.x), ("y", .float n.box.y)])),
     ("data", some (dataToJson n.data)),
     ("style", some (.object [("width", .float n.box.width), ("height", .float n.box.height)])),
     ("parentId", n.parent.map .string),
     ("extent", n.parent.map fun _ => .string "parent")]

def edgeToJson (e : Edge) : Json :=
  .object
    [("id", .string e.id), ("source", .string e.source), ("target", .string e.target),
     ("animated", .bool (e.animated.getD true)), ("label", .ofString? e.label),
     ("type", .string "columnFlow"),
     ("data", .object [("columns", .ofStrings (e.columns.getD []))])]

def fields (d : Drawing) : List (String × Json) :=
  [("nodes", .array (d.nodes.map nodeToJson)), ("edges", .array (d.edges.map edgeToJson))]
    ++ (d.lineage.map fun es => ("lineage", Json.array (es.map LineageEntry.toJson))).toList

def toJson (d : Drawing) : Json := .object d.fields

end Drawing

end QueryFlow
