import QueryFlow.Sql.Render

/-!
What an expression refers to: the columns it names and the aggregates it calls, both in the order of
the text.
-/

namespace QueryFlow

open Sql

/-- A column as an expression names it. A star is the column `*`. -/
structure Reference where
  table : Option String
  column : String
  deriving Repr, DecidableEq

def nonEmpty? (s : String) : Option String := if s.isEmpty then none else some s

theorem nonEmpty?_eq_some {s t : String} : nonEmpty? s = some t ↔ s = t ∧ s ≠ "" := by
  unfold nonEmpty?
  by_cases h : s = ""
  · simp [h]
  · simp [h]

namespace Reference

/-- The column that a path of names means: its last name, in the table named before it. -/
def ofPath (path : List Name) : Reference :=
  match path.reverse with
  | [] => ⟨none, ""⟩
  | [c] => ⟨none, c.text⟩
  | c :: t :: _ => ⟨nonEmpty? t.text, c.text⟩

/-- All columns of the table that a path of names means. -/
def allOf (path : List Name) : Reference := ⟨path.getLast?.bind fun t => nonEmpty? t.text, "*"⟩

def ofForm? : Form → Option Reference
  | .column path => some (ofPath path)
  | .allOf path => some (allOf path)
  | .star => some ⟨none, "*"⟩
  | _ => none

end Reference

namespace Sql.Expr

/-- The columns that an expression refers to, in the order of the text. -/
def references (e : Expr) : List Reference := e.subterms.filterMap fun x => Reference.ofForm? x.form

/-- The node calls a function that sums up many rows. -/
def isAggregate (e : Expr) : Bool :=
  match e.form with
  | .call name written known =>
    if known then Function.aggregateNames.contains name
    else Function.otherAggregateNames.contains (Text.lower written)
  | .joinedText .. => true
  | _ => false

/-- The texts of the aggregates that an expression calls, an outer call before the inner ones. -/
def aggregates (d : Dialect) (e : Expr) : List String :=
  (e.subterms.filter isAggregate).map (text d)

def hasAggregate (e : Expr) : Bool := e.subterms.any isAggregate

end Sql.Expr

end QueryFlow
