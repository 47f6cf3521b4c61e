import QueryFlow.CommandLine.Invocation
import QueryFlow.CommandLine.Report
import QueryFlow.Journal
import QueryFlow.Json.Write
import QueryFlow.Layout.Solver
import QueryFlow.Schema.Load

/-!
Running the program on a command line. A step makes records for the log and writes to the output,
and what it has made and written stays when a later step fails. Reports are written one after the
other, behind the results of all statements.
-/

namespace QueryFlow.CommandLine

open Logging

/-- What the program meets when it runs. -/
structure World where
  files : Files
  settings : Form.Checked Settings
  /-- What comes back from each call of the solver, counted from zero. -/
  solver : Nat → Layout.Reply

/-- A message that ends the program in order. -/
inductive Complaint where
  | noFile (path : String)
  | unknownDialect (name : String)
  | schema (fault : SchemaFault)
  | script (cause : Sql.SyntaxError)
  | solver (fault : Layout.SolverFault)
  deriving Repr, DecidableEq

def Complaint.message : Complaint → String
  | .noFile path => "File not found: " ++ path
  | .unknownDialect name => unknownDialectText name
  | .schema f => f.message
  | .script e => "Parse error: " ++ e.message
  | .solver f => f.message

/-- How a run fails. -/
inductive Failure where
  /-- With a message, which ends the program in order. -/
  | complaint (complaint : Complaint)
  /-- The settings are looked at and do not hold. -/
  | settings (problems : List Form.Problem)
  | unknownLevel
  /-- The file of queries is a directory. -/
  | directory
  /-- A file of SQL is no text. -/
  | encoding
  /-- The path of the queries is longer than a file system allows. -/
  | longPath
  /-- The path of the schema cannot be one. -/
  | badPath
  /-- A default value of the schema cannot be written. -/
  | unwritable
  | document (fault : Layout.DocumentFault)
  | geometry (fault : Layout.GeometryFault)
  | spareBox (problems : List Form.Problem)
  deriving Repr, DecidableEq

/-- A step with the records that it makes and with what it writes. Both are kept in front of a
failure. -/
structure Step (α : Type) where
  records : List Record
  output : String
  result : Except Failure α

namespace Step

variable {α β : Type}

/-- Go on with the result of a step. -/
def bind (s : Step α) (f : α → Step β) : Step β :=
  match s.result with
  | .error e => ⟨s.records, s.output, .error e⟩
  | .ok a => ⟨s.records ++ (f a).records, s.output ++ (f a).output, (f a).result⟩

instance : Monad Step where
  pure a := ⟨[], "", .ok a⟩
  bind := bind

/-- A step that makes no records and writes nothing. -/
def of (result : Except Failure α) : Step α := ⟨[], "", result⟩

/-- A step that only makes records. -/
def say (records : List Record) : Step Unit := ⟨records, "", .ok ()⟩

def write (text : String) : Step Unit := ⟨[], text, .ok ()⟩

def complain (c : Complaint) : Step α := of (.error (.complaint c))

end Step

def chooseDialect (w : World) (a : Analysis) : Step Sql.Dialect :=
  match Sql.Dialect.resolve w.settings a.dialect with
  | .ok d => pure d
  | .error (.unknown name) => .complain (.unknownDialect name)
  | .error (.settings ps) => .of (.error (.settings ps))

def ofLoadFault : LoadFault → Failure
  | .schema f => .complaint (.schema f)
  | .settings ps => .settings ps
  | .encoding => .encoding
  | .badPath => .badPath
  | .unwritable => .unwritable

def loadScript (w : World) (a : Analysis) (path : String) : Step (List Schema.Table) := do
  let text ← .of ((Schema.scriptText w.files path).mapError ofLoadFault)
  let (d, script) ← .of ((Schema.readDeclarations w.settings a.dialect text).mapError ofLoadFault)
  .say [Journal.ofScript script.length]
  let tables ← .of ((Schema.declaredTables d script).mapError ofLoadFault)
  .say [Journal.ofDeclarations tables.length]
  return tables

/-- The known tables of an analysis; an empty path means none. -/
def loadSchema (w : World) (a : Analysis) : Step (List Schema.Table) :=
  match givenName? a.schema with
  | none => pure []
  | some path =>
    if Schema.isJsonPath path then
      .of ((Schema.loadJson w.files path).mapError fun f => .complaint (.schema f))
    else loadScript w a path

def ofReadFault (path : String) : ReadFault → Failure
  | .missing | .nullCharacter => .complaint (.noFile path)
  | .directory => .directory
  | .encoding => .encoding
  | .tooLong => .longPath

def readQueries (w : World) (a : Analysis) (d : Sql.Dialect) : Step (List Sql.Statement) := do
  let text ← .of ((w.files.text a.file).mapError (ofReadFault (Path.normal a.file)))
  match Sql.readScript d text with
  | .error e => .complain (.script e)
  | .ok script =>
    .say [Journal.ofScript script.length]
    return script

def ofLayoutFault : Layout.Fault → Failure
  | .solver f => .complaint (.solver f)
  | .document f => .document f
  | .geometry f => .geometry f
  | .settings ps => .settings ps
  | .spareBox ps => .spareBox ps

/-- The positions of a graph, behind so many calls of the solver. -/
def positionsOf (w : World) (g : Graph) (calls : Nat) : Step (Layout.Positions Float) :=
  let run := Layout.run w.settings none (w.solver calls) g
  ⟨(if calls == 0 then run.opening else []) ++ run.records, "",
    run.outcome.mapError ofLayoutFault⟩

/-- The results of statements from a number on, behind so many calls of the solver. -/
def resultsOf (w : World) (ctx : BuildContext) (layout : Bool) :
    Nat → Nat → List Sql.Statement → Step (List Result)
  | _, _, [] => pure []
  | number, calls, s :: rest => do
    let flow := s.flow ctx
    .say (Journal.ofFlow s flow)
    match flow, layout with
    | .ok g, true =>
      let positions ← positionsOf w g calls
      return ⟨number, flow, positions⟩ :: (← resultsOf w ctx layout (number + 1) (calls + 1) rest)
    | _, _ => return ⟨number, flow, []⟩ :: (← resultsOf w ctx layout (number + 1) calls rest)

def findFile (w : World) (a : Analysis) : Step Unit :=
  match w.files.entry a.file with
  | .error .tooLong => .of (.error .longPath)
  | .error _ => .complain (.noFile (Path.normal a.file))
  | .ok _ => pure ()

def analyze (w : World) (a : Analysis) (layout : Bool) : Step (List Result) := do
  findFile w a
  let d ← chooseDialect w a
  let schema ← loadSchema w a
  let script ← readQueries w a d
  resultsOf w ⟨d, schema⟩ (layout && a.form == .json) 1 0 script

def lineageRecords (rs : List Result) : List Record :=
  rs.flatMap fun r =>
    match r.flow with
    | .ok g => Journal.ofLineage g
    | .error _ => []

/-- Write the reports on results, in text one after the other and in JSON as one list. -/
def writeReports (form : ReportForm) (onlyLineage : Bool) (results : List Result) : Step Unit :=
  match form with
  | .json => do
    .say (lineageRecords results)
    .write ((Report.json onlyLineage results).indented ++ "\n")
  | .text => results.forM fun r => do
    .say (lineageRecords [r])
    .write (Report.text onlyLineage [r])

def report (w : World) (a : Analysis) (layout onlyLineage : Bool) : Step Unit := do
  let results ← analyze w a layout
  writeReports a.form onlyLineage results

def dialectList : String :=
  Help.lines ("Supported SQL dialects:" :: Sql.Dialect.all.map fun d => "  • " ++ d.name)

def greeting (host : String) (port : Int) : String :=
  Help.lines
    ["", "🚀 SQL Flow Visualizer — HTTP API",
     "   Listening on http://" ++ host ++ ":" ++ toString port, ""]

/-- Execute a command; without one, the help is written. -/
def execute (w : World) : Option Command → Step Unit
  | none => .write Help.program
  | some (.visualize a layout) => report w a layout false
  | some (.lineage a) => report w a false true
  | some (.serve host port) => .write (greeting host port)
  | some .dialects => .write dialectList

def loggerOf (w : World) (i : Invocation) : Except Failure Logger :=
  match Logger.configure w.settings i.logLevel {} with
  | .ok l => .ok l
  | .error (.settings ps) => .error (.settings ps)
  | .error .unknownLevel => .error .unknownLevel

def logText (l : Logger) (records : List Record) : String :=
  Help.lines ((l.passed records).map Record.line)

/-- How a run ends: in order, with a code, or by a failure that nothing catches. -/
inductive Ending where
  | exit (code : Nat)
  | failed (failure : Failure)
  deriving Repr, DecidableEq

/-- A run from its start to its end: what it has written by then, and how it ends. -/
structure Course where
  output : String
  errors : String
  ending : Ending
  deriving Repr, DecidableEq

def course (w : World) (arguments : List String) : Course :=
  match Invocation.ofArguments arguments with
  | .error (.help text) => ⟨text, "", .exit 0⟩
  | .error (.fault f) => ⟨"", "error: " ++ f.message ++ "\n", .exit 2⟩
  | .ok invocation =>
    match loggerOf w invocation with
    | .error f => ⟨"", "", .failed f⟩
    | .ok logger =>
      let step := execute w invocation.command
      let log := logText logger step.records
      match step.result with
      | .ok () => ⟨step.output, log, .exit 0⟩
      | .error (.complaint c) => ⟨step.output, log ++ "Error: " ++ c.message ++ "\n", .exit 1⟩
      | .error f => ⟨step.output, log, .failed f⟩

/-- What is told about a run. About one that fails out of order only the failure is told. -/
inductive Outcome where
  | exit (code : Nat) (output errors : String)
  | failed (failure : Failure)
  deriving Repr, DecidableEq

def Course.outcome (c : Course) : Outcome :=
  match c.ending with
  | .exit code => .exit code c.output c.errors
  | .failed f => .failed f

def run (w : World) (arguments : List String) : Outcome := (course w arguments).outcome

end QueryFlow.CommandLine
