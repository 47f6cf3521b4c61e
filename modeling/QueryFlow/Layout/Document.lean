import QueryFlow.Dot.Document
import QueryFlow.Keyed
import QueryFlow.Layout.Options
import QueryFlow.Layout.Size

/-!
The document that the solver gets for a graph. Each group is a cluster of its children; an edge
belongs to a cluster when both of its ends do, and to no cluster otherwise. Clusters come after the
other nodes and before the other edges.
-/

namespace QueryFlow.Layout

def clusterStart : String := "cluster_"

/-- The division of a graph into its groups and the rest. -/
structure Division where
  /-- The groups by id. Of groups with one id, the last one counts, in the place of the first. -/
  groups : List (String × NamedGroup)
  /-- All other nodes. -/
  nodes : List Node
  /-- The group of each node that has one; of nodes with one id, the last one counts. -/
  membership : List (String × String)

namespace Division

/-- The group that a node belongs to, if there is such a group. -/
def groupOf? (groups : List (String × NamedGroup)) (n : Node) : Option String :=
  n.parent.bind fun p => if (groups.lookup p).isSome then some p else none

/-- The division of a graph. A node with the id of a group is left out. -/
def ofGraph (g : Graph) : Division :=
  let groups := Keyed.assignAll (g.nodes.filterMap fun n =>
    match n.data with
    | .group frame => some (n.id, frame)
    | _ => none) []
  let nodes := g.nodes.filter fun n => (groups.lookup n.id).isNone
  ⟨groups, nodes, Keyed.assignAll (nodes.filterMap fun n =>
    (groupOf? groups n).map fun p => (n.id, p)) []⟩

def outer (d : Division) : List Node := d.nodes.filter fun n => (groupOf? d.groups n).isNone

def inner (d : Division) (group : String) : List Node :=
  d.nodes.filter fun n => groupOf? d.groups n == some group

/-- The group in which an edge lies. -/
def edgeGroup? (d : Division) (e : Edge) : Option String :=
  match d.membership.lookup e.source with
  | some p => if d.membership.lookup e.target == some p then some p else none
  | none => none

end Division

def sizeAttributes (s : Size) : List Dot.Attribute :=
  [⟨"height", (inches? s.height).getD ""⟩, ⟨"width", (inches? s.width).getD ""⟩]

def nodeItem (n : Node) : Dot.Item := .node n.id (sizeAttributes (Size.ofNode n))

def edgeItem (e : Edge) : Dot.Item := .edge e.source e.target

def cluster (margin : String) (d : Division) (edges : List Edge) (id : String)
    (frame : NamedGroup) : Dot.Cluster where
  name := clusterStart ++ id
  attributes :=
    [⟨"label", frame.name⟩, ⟨"labeljust", "l"⟩, ⟨"labelloc", "t"⟩, ⟨"margin", margin⟩]
  items := (d.inner id).map nodeItem
    ++ (edges.filter fun e => d.edgeGroup? e == some id).map edgeItem

def parts (g : Graph) (margin : String) : List Dot.Part :=
  let d := Division.ofGraph g
  d.outer.map (fun n => .item (nodeItem n))
    ++ d.groups.map (fun (id, frame) => .cluster (cluster margin d g.edges id frame))
    ++ (g.edges.filter fun e => (d.edgeGroup? e).isNone).map (fun e => .item (edgeItem e))

inductive DocumentFault where
  /-- A distance is beyond all doubles. -/
  | range
  /-- The margin of clusters has more digits than are written. -/
  | digits
  deriving Repr, DecidableEq

/-- The margin of the clusters. It is only written when there are any. -/
def margin (d : Division) (o : Options) : Except DocumentFault String :=
  if d.groups.isEmpty then .ok ""
  else
    match Decimal.intText? o.groupPadding with
    | some text => .ok text
    | none => .error .digits

/-- The document of a graph. The distances are written first, and then the margin. -/
def document (g : Graph) (o : Options) : Except DocumentFault Dot.Document :=
  match inches? o.nodeSpacing, inches? o.layerSpacing with
  | some nodesep, some ranksep =>
    (margin (Division.ofGraph g) o).map fun margin =>
      { name := "flow"
        graphAttributes :=
          [⟨"nodesep", nodesep⟩, ⟨"rankdir", "LR"⟩, ⟨"ranksep", ranksep⟩, ⟨"splines", "ortho"⟩]
        nodeAttributes := [⟨"fixedsize", "true"⟩, ⟨"label", ""⟩, ⟨"shape", "box"⟩]
        parts := parts g margin }
  | _, _ => .error .range

end QueryFlow.Layout
