import QueryFlow.Proofs.CommandLine.Steps
import QueryFlow.Proofs.Http.Endpoints

/-!
One question in four places: on the command line and at the server, about the whole graph and about
the lineage alone. A question is a text of one statement with a script of declarations and a
dialect. The main statement says that all four places answer it alike, be it with a graph or with a
reason to have none. Layouts are left out, and so is the log.
-/

namespace QueryFlow

/-- A text with declarations of its tables, and the dialect of both. -/
structure Question where
  text : String
  dialect : Option String
  declarations : String

/-- The text of a question is one statement, and its declarations are of these tables. -/
structure Question.Means (settings : Form.Checked Settings) (x : Question) (d : Sql.Dialect)
    (tables : List Schema.Table) (s : Sql.Statement) : Prop where
  dialect : Sql.Dialect.resolve settings x.dialect = .ok d
  statement : Sql.readScript d x.text = .ok [s]
  tables : Schema.ofScript settings x.dialect x.declarations = .ok tables

variable {x : Question} {d : Sql.Dialect} {tables : List Schema.Table} {s : Sql.Statement}

namespace CommandLine

variable {w : World} {a : Analysis}

/-- The files of an analysis hold a question, and its report is JSON. -/
structure Analysis.Poses (w : World) (x : Question) (a : Analysis) : Prop where
  text : w.files.text a.file = .ok x.text
  dialect : a.dialect = x.dialect
  declarations : ∃ path, a.schema = some path ∧ path ≠ "" ∧ Schema.isJsonPath path = false ∧
    w.files.text path = .ok x.declarations
  form : a.form = .json

/-- A command line that runs a command on a question, with a log level that is known. -/
def Asks (w : World) (x : Question) (command : Analysis → Command) (arguments : List String) :
    Prop :=
  ∃ level a logger, Invocation.ofArguments arguments = .ok ⟨level, some (command a)⟩ ∧
    loggerOf w ⟨level, some (command a)⟩ = .ok logger ∧ a.Poses w x

end CommandLine

namespace Http

variable {settings : Form.Checked Settings} {body : String} {q : Inquiry}

/-- A body that asks a question in whole characters. -/
structure Inquiry.Poses (x : Question) (body : String) (q : Inquiry) : Prop where
  asks : Inquiry.ofBody body = .ok q
  text : q.text = x.text
  dialect : q.dialect = x.dialect
  tables : q.tables = none
  declarations : q.declarations = some x.declarations
  whole : Json.holdsHalfCharacter body = false

end Http

open CommandLine Http

/-- Four places to ask: two command lines, and two bodies with the inquiries in them. -/
structure Places where
  drawLine : List String
  traceLine : List String
  drawBody : String
  traceBody : String
  drawn : Inquiry
  traced : Inquiry

namespace Places

variable {w : World} {k : Places}

/-- The server answers a body with these fields, whatever the solver has to say. -/
def Answers (w : World) (path body : String) (fields : List (String × Json)) : Prop :=
  ∀ solver, handle w.settings solver (post path body) = .ok (answer fields)

end Places

end QueryFlow
