import QueryFlow.Dot.Quote

/-!
Documents of the DOT language: a directed graph with attributes, nodes, edges and clusters. Clusters
hold nodes and edges, but no clusters.
-/

namespace QueryFlow.Dot

structure Attribute where
  name : String
  value : String
  deriving Repr, DecidableEq

inductive Item where
  | node (id : String) (attributes : List Attribute)
  | edge (source target : String)
  deriving Repr, DecidableEq

structure Cluster where
  name : String
  attributes : List Attribute
  items : List Item
  deriving Repr, DecidableEq

inductive Part where
  | item (item : Item)
  | cluster (cluster : Cluster)
  deriving Repr, DecidableEq

structure Document where
  name : String
  graphAttributes : List Attribute
  nodeAttributes : List Attribute
  parts : List Part
  deriving Repr, DecidableEq

def Attribute.text (a : Attribute) : String := quote a.name ++ "=" ++ quote a.value

def attributesText (as : List Attribute) : String := " ".intercalate (as.map Attribute.text)

def bracketed (as : List Attribute) : String := " [" ++ attributesText as ++ "]"

/-- The line of an item, without the tabs in front. -/
def Item.text : Item → String
  | .node id as => quote id ++ bracketed as
  | .edge source target => quoteEnd source ++ " -> " ++ quoteEnd target

/-- The lines of a part, without the tab in front of all of them. -/
def Part.lines : Part → List String
  | .item i => [i.text]
  | .cluster c =>
    ("subgraph " ++ quote c.name ++ " \x7b") :: ("\t" ++ attributesText c.attributes)
      :: (c.items.map fun i => "\t" ++ i.text) ++ ["\x7d"]

/-- The lines between the braces of a document, without the tab in front of all of them. -/
def Document.inner (d : Document) : List String :=
  ("graph" ++ bracketed d.graphAttributes) :: ("node" ++ bracketed d.nodeAttributes)
    :: d.parts.flatMap Part.lines

def Document.text (d : Document) : String :=
  let lines := ("digraph " ++ quote d.name ++ " \x7b") :: (d.inner.map ("\t" ++ ·)) ++ ["\x7d"]
  String.join (lines.map (· ++ "\n"))

end QueryFlow.Dot
