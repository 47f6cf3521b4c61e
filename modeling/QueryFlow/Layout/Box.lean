import QueryFlow.Graph.Basic
import QueryFlow.Keyed
import QueryFlow.Layout.Document

/-!
From what the solver says to the box of every node. The solver counts upwards from the lower left
corner, in points; boxes count downwards from the upper left corner, in pixels, and a point is a
pixel. The box of a node in a group is relative to the box of the group. All of it works over any
kind of number.
-/

namespace QueryFlow.Layout

/-- A box by its upper left corner and its size. -/
structure Box (α : Type) where
  x : α
  y : α
  width : α
  height : α
  deriving Repr, DecidableEq

/-- What the solver says about one object. -/
inductive Placement (α : Type) where
  /-- A cluster by its lower left and its upper right corner. -/
  | cluster (group : String) (left bottom right top : α)
  /-- A node by its middle, in points, and its size, in inches. -/
  | node (id : String) (x y width height : α)
  deriving Repr, DecidableEq

/-- What the solver says about a document: where the left and the upper side of the whole are, and
where its objects are. -/
structure Geometry (α : Type) where
  left : α
  top : α
  placements : List (Placement α)
  deriving Repr, DecidableEq

abbrev Positions (α : Type) := List (String × Box α)

section

variable {α : Type} [Add α] [Sub α] [Mul α] [Div α] [OfNat α 2] [OfNat α 72]

/-- The box of an object inside the whole, under the id of its node. -/
def Geometry.boxOf (g : Geometry α) : Placement α → String × Box α
  | .cluster id left bottom right top =>
    (id, ⟨left - g.left, g.top - top, right - left, top - bottom⟩)
  | .node id x y width height =>
    let w := width * 72
    let h := height * 72
    (id, ⟨x - w / 2 - g.left, g.top - y - h / 2, w, h⟩)

/-- The boxes of all objects inside the whole. Of objects of one node, the last one counts. -/
def Geometry.boxes (g : Geometry α) : Positions α := Keyed.assignAll (g.placements.map g.boxOf) []

omit [Add α] [Mul α] [Div α] [OfNat α 2] [OfNat α 72] in
def Box.within (outer inner : Box α) : Box α :=
  { inner with x := inner.x - outer.x, y := inner.y - outer.y }

def parentBox? (boxes : Positions α) (n : Node) : Option (Box α) :=
  (n.parent.bind nonEmpty?).bind fun p => boxes.lookup p

/-- The box of a node; none when the solver did not place it. -/
def boxOfNode? (boxes : Positions α) (n : Node) : Option (Box α) :=
  (boxes.lookup n.id).map fun box =>
    match parentBox? boxes n with
    | some outer => outer.within box
    | none => box

/-- The box of every node; `spare` is the box of nodes that the solver did not place. -/
def Geometry.positions (g : Geometry α) (nodes : List Node) (spare : Box α) : Positions α :=
  let boxes := g.boxes
  Keyed.assignAll (nodes.map fun n => (n.id, (boxOfNode? boxes n).getD spare)) []

def Geometry.unplaced (g : Geometry α) (nodes : List Node) : List String :=
  let boxes := g.boxes
  (nodes.filter fun n => (boxes.lookup n.id).isNone).map (·.id)

end

end QueryFlow.Layout
