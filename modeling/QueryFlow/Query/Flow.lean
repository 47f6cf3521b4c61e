import QueryFlow.Graph.Builder
import QueryFlow.Settings
import QueryFlow.Sql.Parser.Statement

/-!
From text to flow graph. A text must hold exactly one statement, and that must be a SELECT, with or
without a WITH clause; every other outcome has a cause of its own.
-/

namespace QueryFlow

open Form Sql

inductive StatementFault where
  | unreadable (cause : SyntaxError)
  | missing
  | several (count : Nat)
  deriving Repr, DecidableEq

def StatementFault.message : StatementFault → String
  | .unreadable e => e.message
  | .missing => "No SQL statement found"
  | .several n => "Expected one statement, found " ++ toString n

def Sql.readSingle (d : Dialect) (text : String) : Except StatementFault Statement :=
  match readScript d text with
  | .error e => .error (.unreadable e)
  | .ok [] => .error .missing
  | .ok [s] => .ok s
  | .ok ss => .error (.several ss.length)

inductive FlowFault where
  | notSelect
  | unknownDialect (name : String)
  | unreadable (fault : StatementFault)
  deriving Repr, DecidableEq

def FlowFault.message : FlowFault → String
  | .notSelect => "Only SELECT queries can be visualized."
  | .unknownDialect name => unknownDialectText name
  | .unreadable f => "Parse error: " ++ f.message

def Sql.Statement.flow (ctx : BuildContext) (s : Statement) : Except FlowFault Graph :=
  match Query.ofStatement? s with
  | some q => .ok (q.graph ctx)
  | none => .error .notSelect

/-- The flow graph of the statement that a text holds. Settings are looked at when no dialect is
named, and only then their problems count. -/
def flowOfText (settings : Checked Settings) (schema : List Schema.Table) (dialect : Option String)
    (text : String) : Checked (Except FlowFault Graph) :=
  match Dialect.resolve settings dialect with
  | .error (.settings ps) => .error ps
  | .error (.unknown name) => .ok (.error (.unknownDialect name))
  | .ok d =>
    match readSingle d text with
    | .error f => .ok (.error (.unreadable f))
    | .ok s => .ok (s.flow ⟨d, schema⟩)

end QueryFlow
