import QueryFlow.CommandLine.Arguments
import QueryFlow.CommandLine.Help

/-!
The commands of the program and their options.
-/

namespace QueryFlow.CommandLine

inductive ReportForm where
  | text | json
  deriving Repr, DecidableEq

structure Analysis where
  file : String
  schema : Option String
  dialect : Option String
  form : ReportForm
  deriving Repr, DecidableEq

inductive Command where
  | visualize (analysis : Analysis) (layout : Bool)
  | lineage (analysis : Analysis)
  | serve (host : String) (port : Int)
  | dialects
  deriving Repr, DecidableEq

/-- What the program is called for; without a command it shows its help. -/
structure Invocation where
  logLevel : Option String
  command : Option Command
  deriving Repr, DecidableEq

namespace Invocation

def helpRule : OptionRule := ⟨["-h", "--help"], .help⟩

def rules : Rules where
  options := [helpRule, ⟨["--log-level"], .text⟩]
  positional := .command "command" ["visualize", "lineage", "serve", "dialects"]

def analysisOptions : List OptionRule :=
  [helpRule, ⟨["--schema"], .text⟩, ⟨["--dialect"], .text⟩,
   ⟨["--format"], .choice ["text", "json"]⟩]

def rulesOf (command : String) : Rules :=
  match command with
  | "visualize" => ⟨analysisOptions ++ [⟨["--layout"], .flag⟩], .single "file"⟩
  | "lineage" => ⟨analysisOptions, .single "file"⟩
  | "serve" => ⟨[helpRule, ⟨["--host"], .text⟩, ⟨["--port"], .number⟩], .nothing⟩
  | _ => ⟨[helpRule], .nothing⟩

def analysisOf (r : Reading) : Analysis where
  file := (r.positional.bind List.head?).getD ""
  schema := r.value? "--schema"
  dialect := r.value? "--dialect"
  form := if r.value? "--format" == some "json" then .json else .text

def commandOf (name : String) (r : Reading) : Command :=
  match name with
  | "visualize" => .visualize (analysisOf r) (r.has "--layout")
  | "lineage" => .lineage (analysisOf r)
  | "serve" =>
    .serve ((r.value? "--host").getD "127.0.0.1")
      (((r.value? "--port").bind wholeNumber?).getD 8000)
  | _ => .dialects

/-- Why the program is not called for anything. -/
inductive Ending where
  | help (text : String)
  | fault (fault : UsageFault)
  deriving Repr, DecidableEq

/-- What a command line calls for. Arguments that nothing asks for are refused last. -/
def ofArguments (arguments : List String) : Except Ending Invocation :=
  match readArguments rules arguments with
  | .error .help => .error (.help Help.program)
  | .error (.fault f) => .error (.fault f)
  | .ok outer =>
    match outer.positional with
    | some (name :: more) =>
      match readArguments (rulesOf name) more with
      | .error .help => .error (.help (Help.command name))
      | .error (.fault f) => .error (.fault f)
      | .ok inner =>
        let extras := outer.extras ++ inner.extras
        if extras.isEmpty then .ok ⟨outer.value? "--log-level", some (commandOf name inner)⟩
        else .error (.fault (.unrecognized extras))
    | _ =>
      if outer.extras.isEmpty then .ok ⟨outer.value? "--log-level", none⟩
      else .error (.fault (.unrecognized outer.extras))

end Invocation

end QueryFlow.CommandLine
