import QueryFlow.Graph.Basic

/-!
Violations of the rules that every flow graph should keep: ids are unique, parents are groups, edges
end at nodes and never at groups.
-/

namespace QueryFlow

/-- A rule that a graph breaks, with the place where it does. -/
inductive Violation where
  | duplicateId (id : String)
  | unknownGroup (node group : String)
  | missingEnd (edge node : String)
  | endAtGroup (edge group : String)
  deriving Repr, DecidableEq

def Violation.message : Violation → String
  | .duplicateId id => "duplicate node id: " ++ id
  | .unknownGroup n g => "node " ++ n ++ " references unknown cte-group " ++ g
  | .missingEnd e n => "edge " ++ e ++ " references missing node " ++ n
  | .endAtGroup e g => "edge " ++ e ++ " is incident on cte-group " ++ g

namespace Graph

/-- The ids that occur before in the list or in `seen`, once for each repetition. -/
def repeated (seen : List String) : List String → List String
  | [] => []
  | id :: r => if seen.contains id then id :: repeated seen r else repeated (id :: seen) r

def ids (g : Graph) : List String := g.nodes.map (·.id)

def groupIds (g : Graph) : List String := (g.nodes.filter Node.isGroup).map (·.id)

def endViolation? (g : Graph) (edge id : String) : Option Violation :=
  if !g.ids.contains id then some (.missingEnd edge id)
  else if g.groupIds.contains id then some (.endAtGroup edge id)
  else none

def parentViolation? (g : Graph) (n : Node) : Option Violation :=
  match n.parent with
  | none => none
  | some p => if g.groupIds.contains p then none else some (.unknownGroup n.id p)

/-- All violations: repeated ids, then parents in node order, then ends in edge order. -/
def violations (g : Graph) : List Violation :=
  (repeated [] g.ids).map .duplicateId
    ++ g.nodes.filterMap g.parentViolation?
    ++ g.edges.flatMap fun e =>
        (g.endViolation? e.id e.source).toList ++ (g.endViolation? e.id e.target).toList

end Graph

end QueryFlow
