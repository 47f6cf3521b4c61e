import QueryFlow.Decimal.Fixed
import QueryFlow.Decimal.Read
import QueryFlow.Graph.Basic

/-!
The size of a node before it is laid out, estimated from what it shows, and lengths in inches.
-/

namespace QueryFlow.Layout

structure Size where
  width : Nat
  height : Nat
  deriving Repr, DecidableEq

/-- The number of rows that a node shows; groups have none of their own. -/
def rows? : NodeData → Option Nat
  | .group _ => none
  | .table t => some (max t.columns.length 1 + 1)
  | .named r => some (max r.columns.length 1 + 1)
  | .output o => some (max o.columns.length 1 + 1)
  | .aggregation a => some (a.groupBy.length + a.aggregates.length + 1)
  | .join _ | .filter _ => some 2

/-- The size of a node. A group is as large as the solver makes it. -/
def Size.ofNode (n : Node) : Size :=
  match rows? n.data with
  | none => ⟨0, 0⟩
  | some rows => ⟨220, max 60 (rows * 24 + 16)⟩

/-- A number of pixels as inches, with four places; none for a number beyond all doubles. -/
def inches? (pixels : Int) : Option String :=
  (Decimal.ofInt? pixels).map fun x => Decimal.fixedText 4 (x / 72.0)

end QueryFlow.Layout
