import QueryFlow.Lineage.Basic
import QueryFlow.Logging
import QueryFlow.Query.Flow

/-!
What the log says about the steps of an analysis. Every list of records follows from the result of
its step alone.
-/

namespace QueryFlow.Journal

open Logging Sql

def ofScript (statements : Nat) : Record :=
  ⟨"sqlflow.core.parser", .debug, "parsed " ++ toString statements ++ " statement(s)"⟩

def ofDeclarations (tables : Nat) : Record :=
  ⟨"sqlflow.core.schema", .debug, "schema from DDL: " ++ toString tables ++ " table(s)"⟩

/-- The records about FROM items of a SELECT that are left out. -/
def ofSelection (clauses : List Expr) : List Record :=
  (Selection.leftOut clauses).map fun kind =>
    ⟨"sqlflow.core.statement", .debug, "skipping unsupported FROM item: " ++ kind⟩

def ofBinding (name : String) (body : Expr) : List Record :=
  match body.form with
  | .select _ => ofSelection body.operands
  | _ => [⟨"sqlflow.core.statement", .debug, "skipping CTE " ++ name ++ " with non-SELECT body"⟩]

/-- The records about what is left out of a query: its main part comes first. -/
def ofTree (e : Expr) : List Record :=
  match e.form with
  | .select _ =>
    let clauses := e.operands
    match Query.boundTrees clauses with
    | none => ofSelection clauses
    | some (recursive, trees) =>
      ofSelection clauses ++ trees.flatMap (fun (name, body) => ofBinding name body)
        ++ (if recursive then
          [⟨"sqlflow.core.builder", .debug, "WITH RECURSIVE is processed as a plain WITH clause"⟩]
        else [])
  | _ => []

def ofNode (n : Node) : List Record :=
  let added : Record := ⟨"sqlflow.core.builder", .debug,
    "node " ++ n.id ++ " (" ++ n.kind.name ++ ") parent=" ++ n.parent.getD "None"⟩
  match n.data with
  | .named r =>
    [added, ⟨"sqlflow.core.builder", .debug, "registered CTE " ++ r.name ++ " -> " ++ n.id⟩]
  | _ => [added]

def ofGraph (g : Graph) : List Record :=
  g.nodes.flatMap ofNode ++
    [⟨"sqlflow.core.builder", .info, "built flow graph: " ++ toString g.nodes.length ++ " nodes, "
      ++ toString g.edges.length ++ " edges"⟩]

def ofFlow (s : Statement) (flow : Except FlowFault Graph) : List Record :=
  (match s with
    | .query tree => ofTree tree
    | _ => []) ++
  match flow with
  | .ok g => ofGraph g
  | .error _ => []

/-- The records about the lineage of a graph: searches that were cut off, then the count. -/
def ofLineage (g : Graph) : List Record :=
  match Lineage.output? g with
  | none => []
  | some _ =>
    let trails := Lineage.trails g
    let found := (trails.filter fun (_, t) => !t.sources.isEmpty).length
    trails.flatMap (fun (_, t) => t.cut.map fun column =>
      ⟨"sqlflow.core.lineage", .warning,
        "lineage trace for " ++ column ++ " exceeded depth " ++ toString g.nodes.length⟩) ++
    [⟨"sqlflow.core.lineage", .debug, "lineage: " ++ toString found ++ "/"
      ++ toString trails.length ++ " output columns resolved"⟩]

end QueryFlow.Journal
