import QueryFlow.Json.Read
import QueryFlow.Layout.Answer
import QueryFlow.Logging
import QueryFlow.Text.Case
import QueryFlow.Text.Quoted

/-!
Laying out a graph with the solver. The solver is an outside program: it gets the text of a document
and answers with text, or fails. A layout either has a box for every node or a fault.
-/

namespace QueryFlow.Layout

/-- What comes back from the solver. -/
inductive Reply where
  | absent
  /-- It fails. The wording is what is said about the failure when the solver has no complaint. -/
  | failed (complaint wording : String)
  | output (text : String)
  deriving Repr, DecidableEq

structure Request where
  engine : String
  format : String
  source : String
  deriving Repr, DecidableEq

/-- The engines that the solver has, in the order in which they are listed. -/
def engines : List String :=
  ["circo", "dot", "fdp", "neato", "osage", "patchwork", "sfdp", "twopi"]

/-- The solver has this engine; the case of letters does not count. -/
def isEngine (name : String) : Bool := engines.contains (Text.lower name)

inductive SolverFault where
  /-- There is no such engine, so that nothing is asked. -/
  | unknownEngine (engine : String)
  | absent (engine : String)
  | failed (engine complaint wording : String)
  | unreadable (cause : Json.Fault)
  deriving Repr, DecidableEq

namespace SolverFault

def engineText (engine : String) : String :=
  "unknown engine: " ++ Text.quoted engine ++ " (must be one of ["
    ++ ", ".intercalate (engines.map Text.quoted) ++ "])"

def message : SolverFault → String
  | .unknownEngine engine => "Unreadable Graphviz output: " ++ engineText engine
  | .absent engine => "Graphviz '" ++ engine ++ "' executable not found"
  | .failed engine complaint wording =>
    "Graphviz '" ++ engine ++ "' failed: " ++ if complaint.isEmpty then wording else complaint
  | .unreadable cause => "Unreadable Graphviz output: " ++ cause.message

end SolverFault

/-- Why there is no layout. -/
inductive Fault where
  | solver (fault : SolverFault)
  | document (fault : DocumentFault)
  | geometry (fault : GeometryFault)
  | settings (problems : List Form.Problem)
  /-- The spare box cannot be written in doubles. -/
  | spareBox (problems : List Form.Problem)
  deriving Repr, DecidableEq

/-- The box of nodes that the solver did not place. -/
def Options.spareBox (o : Options) : Form.Checked (Box Float) :=
  Box.ofJson (.object [("width", .int o.defaultWidth), ("height", .int o.defaultHeight)])

/-- The boxes of all nodes by the answer of the solver. The spare box only counts when it is
needed. -/
def positionsOf (answer : Json) (g : Graph) (o : Options) : Except Fault (Positions Float) :=
  match Answer.geometry answer with
  | .error f => .error (.geometry f)
  | .ok geometry =>
    match o.spareBox with
    | .ok spare => .ok (geometry.positions g.nodes spare)
    | .error ps =>
      if (geometry.unplaced g.nodes).isEmpty then .ok (geometry.positions g.nodes ⟨0, 0, 0, 0⟩)
      else .error (.spareBox ps)

/-- The answer of an engine that the solver has, read from what comes back. -/
def answerOf (engine : String) : Reply → Except SolverFault Json
  | .absent => .error (.absent engine)
  | .failed complaint wording => .error (.failed engine complaint wording)
  | .output text =>
    match Json.read text with
    | .ok j => .ok j
    | .error e => .error (.unreadable e)

/-- One run: what was asked, what came of it, and what the log says. -/
structure Run where
  requests : List Request := []
  outcome : Except Fault (Positions Float)
  /-- What the log says when the solver is called for the first time. -/
  opening : List Logging.Record := []
  /-- What the log says at every run. -/
  records : List Logging.Record := []

def record (message : String) : Logging.Record := ⟨"sqlflow.flow.layout", .debug, message⟩

def unplacedRecords (answer : Json) (g : Graph) : List Logging.Record :=
  match Answer.geometry answer with
  | .ok geometry => (geometry.unplaced g.nodes).map fun id =>
      record ("no geometry for node " ++ id ++ ", using default box")
  | .error _ => []

/-- Lay out a graph. Without options, those of the settings hold. -/
def run (settings : Form.Checked Settings) (options : Option Options) (reply : Reply) (g : Graph) :
    Run :=
  let chosen : Form.Checked Options :=
    match options with
    | some o => .ok o
    | none => settings.map Options.ofSettings
  match chosen with
  | .error ps => { outcome := .error (.settings ps) }
  | .ok o =>
    match document g o with
    | .error f => { outcome := .error (.document f) }
    | .ok document =>
      let opening := [record ("initialising Graphviz solver (" ++ o.engine ++ ")")]
      if !isEngine o.engine then
        { outcome := .error (.solver (.unknownEngine o.engine)), opening }
      else
        let requests := [⟨o.engine, "json", document.text⟩]
        match answerOf o.engine reply with
        | .error f => { requests, outcome := .error (.solver f), opening }
        | .ok answer =>
          let outcome := positionsOf answer g o
          let records := unplacedRecords answer g ++
            match outcome with
            | .ok positions =>
              [record ("layout computed for " ++ toString positions.length ++ " nodes")]
            | .error _ => []
          { requests, outcome, opening, records }

end QueryFlow.Layout
