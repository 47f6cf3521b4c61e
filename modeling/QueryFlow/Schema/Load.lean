import QueryFlow.Files
import QueryFlow.Json.Read
import QueryFlow.Schema.Declared
import QueryFlow.Schema.Exchange
import QueryFlow.Settings
import QueryFlow.Sql.Parser.Statement

/-!
Known tables from a JSON value, from a script of declarations, or from a file of either kind. A file
whose name ends in `.json` holds a list of tables, any other a script.
-/

namespace QueryFlow

/-- Why a file does not hold JSON. -/
inductive ContentFault where
  | reading (cause : ReadFault)
  | json (cause : Json.Fault)
  deriving Repr, DecidableEq

def ContentFault.message : ContentFault → String
  | .reading .missing => "No such file or directory"
  | .reading .directory => "Is a directory"
  | .reading .encoding => "invalid UTF-8"
  | .reading .tooLong => "File name too long"
  | .reading .nullCharacter => "embedded null byte"
  | .json f => f.message

/-- Why no tables are known. -/
inductive SchemaFault where
  | notAList
  | invalid (problems : List Form.Problem)
  | unreadable (path : String) (cause : ContentFault)
  | unknownDialect (name : String)
  | script (cause : Sql.SyntaxError)
  deriving Repr, DecidableEq

def SchemaFault.message : SchemaFault → String
  | .notAList => "schema JSON must be a list of tables"
  | .invalid ps => "invalid schema: " ++ "; ".intercalate (ps.map Form.Problem.text)
  | .unreadable path cause => "cannot read schema file " ++ path ++ ": " ++ cause.message
  | .unknownDialect name => unknownDialectText name
  | .script e => "cannot parse DDL: " ++ e.message

/-- How loading can end without tables: by a fault of the schema, by settings that are looked at and
do not hold, by a script that is no text, by a path that cannot be one, or by a default value that
the dialect cannot write. -/
inductive LoadFault where
  | schema (fault : SchemaFault)
  | settings (problems : List Form.Problem)
  | encoding
  | badPath
  | unwritable
  deriving Repr, DecidableEq

namespace Schema

def ofJson : Json → Except SchemaFault (List Table)
  | .array js =>
    match tablesOfJson js with
    | .ok ts => .ok ts
    | .error ps => .error (.invalid ps)
  | _ => .error .notAList

def readDeclarations (settings : Form.Checked Settings) (dialect : Option String) (text : String) :
    Except LoadFault (Sql.Dialect × List Sql.Statement) :=
  match Sql.Dialect.resolve settings dialect with
  | .error (.settings ps) => .error (.settings ps)
  | .error (.unknown name) => .error (.schema (.unknownDialect name))
  | .ok d =>
    match Sql.readScript d text with
    | .error e => .error (.schema (.script e))
    | .ok script => .ok (d, script)

def declaredTables (d : Sql.Dialect) (script : List Sql.Statement) :
    Except LoadFault (List Table) :=
  if writesScript d script then .ok (tablesOf d script) else .error .unwritable

def ofScript (settings : Form.Checked Settings) (dialect : Option String) (text : String) :
    Except LoadFault (List Table) :=
  match readDeclarations settings dialect text with
  | .error f => .error f
  | .ok (d, script) => declaredTables d script

def isJsonPath (path : String) : Bool := Text.lower (Path.ending path) == ".json"

def loadJson (files : Files) (path : String) : Except SchemaFault (List Table) :=
  match files.text path with
  | .error e => .error (.unreadable (Path.normal path) (.reading e))
  | .ok text =>
    match Json.read text with
    | .error e => .error (.unreadable (Path.normal path) (.json e))
    | .ok j => ofJson j

def scriptText (files : Files) (path : String) : Except LoadFault String :=
  match files.text path with
  | .error .encoding => .error .encoding
  | .error .nullCharacter => .error .badPath
  | .error e => .error (.schema (.unreadable (Path.normal path) (.reading e)))
  | .ok text => .ok text

def load (settings : Form.Checked Settings) (files : Files) (path : String)
    (dialect : Option String) : Except LoadFault (List Table) :=
  if isJsonPath path then
    match loadJson files path with
    | .error f => .error (.schema f)
    | .ok ts => .ok ts
  else
    match scriptText files path with
    | .error f => .error f
    | .ok text => ofScript settings dialect text

end Schema

end QueryFlow
