import QueryFlow.Json.Form
import QueryFlow.Logging
import QueryFlow.Sql.Dialect

/-!
Settings from the environment, and the choice of a dialect. Settings are only looked at where a
value is not given otherwise, so invalid settings do no harm before that.
-/

namespace QueryFlow

open Form

structure Settings where
  dialect : String := "postgres"
  logLevel : String := "WARNING"
  nodeSpacing : Int := 40
  layerSpacing : Int := 80
  groupPadding : Int := 30
  nodeWidth : Int := 220
  nodeHeight : Int := 60
  deriving Repr, DecidableEq

namespace Settings

def names : List String :=
  ["dialect", "log_level", "node_spacing", "layer_spacing", "group_padding", "default_node_width",
   "default_node_height"]

def levelName (j : Json) : Checked String :=
  match string j with
  | .error ps => .error ps
  | .ok s => if (Logging.levelOf? s).isSome then .ok (Text.upper s) else refuse .valueError

def fromZero (j : Json) : Checked Int :=
  match int j with
  | .error ps => .error ps
  | .ok n => if 0 ≤ n then .ok n else refuse .greaterThanEqual

def positive (j : Json) : Checked Int :=
  match int j with
  | .error ps => .error ps
  | .ok n => if 0 < n then .ok n else refuse .greaterThan

def ofFields (fs : List (String × Json)) : Checked Settings :=
  (((((((withDefault (.plain "dialect") string "postgres" fs).map Settings.mk
    |> (also · (withDefault (.plain "log_level") levelName "WARNING" fs)))
    |> (also · (withDefault (.plain "node_spacing") fromZero 40 fs)))
    |> (also · (withDefault (.plain "layer_spacing") fromZero 80 fs)))
    |> (also · (withDefault (.plain "group_padding") fromZero 30 fs)))
    |> (also · (withDefault (.plain "default_node_width") positive 220 fs)))
    |> (also · (withDefault (.plain "default_node_height") positive 60 fs)))

def ofJson (j : Json) : Checked Settings := fieldsOf .modelType j >>= ofFields

def variableStart : String := "SQLFLOW_"

def ofEnvironment (environment : List (String × String)) : Checked Settings :=
  ofFields (names.filterMap fun n =>
    (environment.lookup (variableStart ++ Text.upper n)).map fun v => (n, .string v))

def toJson (s : Settings) : Json :=
  .object
    [("dialect", .string s.dialect), ("log_level", .string s.logLevel),
     ("node_spacing", .int s.nodeSpacing), ("layer_spacing", .int s.layerSpacing),
     ("group_padding", .int s.groupPadding), ("default_node_width", .int s.nodeWidth),
     ("default_node_height", .int s.nodeHeight)]

end Settings

inductive DialectFault where
  | unknown (name : String)
  | settings (problems : List Problem)
  deriving Repr, DecidableEq

def givenName? : Option String → Option String
  | some s => if s.isEmpty then none else some s
  | none => none

def unknownDialectText (name : String) : String := "Unknown dialect: " ++ name

/-- The dialect that a name means, in any letter case. Without a name it is the one of the settings,
and postgres when they have none either. -/
def Sql.Dialect.resolve (settings : Checked Settings) (name : Option String) :
    Except DialectFault Sql.Dialect :=
  match givenName? name with
  | some n =>
    match Sql.Dialect.ofName? (Text.lower n) with
    | some d => .ok d
    | none => .error (.unknown n)
  | none =>
    match settings with
    | .error ps => .error (.settings ps)
    | .ok s =>
      let n := Text.lower ((givenName? (some s.dialect)).getD "postgres")
      match Sql.Dialect.ofName? n with
      | some d => .ok d
      | none => .error (.unknown n)

inductive LevelFault where
  | unknownLevel
  | settings (problems : List Problem)
  deriving Repr, DecidableEq

/-- Set the level of a logger by its name. Without a name it is the one of the settings. -/
def Logging.Logger.configure (settings : Checked Settings) (level : Option String)
    (l : Logging.Logger) : Except LevelFault Logging.Logger :=
  let named (name : String) : Except LevelFault Logging.Logger :=
    match l.configure? name with
    | some l => .ok l
    | none => .error .unknownLevel
  match givenName? level with
  | some name => named name
  | none =>
    match settings with
    | .error ps => .error (.settings ps)
    | .ok s => named s.logLevel

end QueryFlow
