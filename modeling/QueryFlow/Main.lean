import QueryFlow.CommandLine.Run

/-!
The program. It reads the files that its command line names and the environment, and runs on them.
-/

namespace QueryFlow.CommandLine

/-- What stands at a path: nothing, the bytes of a file, or something without bytes. -/
def readEntry (path : String) : IO (List (String × Entry)) := do
  try
    return [(path, .file (← IO.FS.readBinFile path))]
  catch e =>
    match e with
    | .noFileOrDirectory .. => return []
    | _ => return [(path, .directory)]

def Command.paths : Command → List String
  | .visualize a _ | .lineage a => a.file :: a.schema.toList
  | _ => []

def readEnvironment : IO (List (String × String)) := do
  let names := Settings.names.map fun n => Settings.variableStart ++ Text.upper n
  let values ← names.mapM fun v => return (← IO.getEnv v).map fun value => (v, value)
  return values.filterMap id

def readWorld (arguments : List String) : IO World := do
  let paths := match Invocation.ofArguments arguments with
    | .ok i => (i.command.map Command.paths).getD []
    | .error _ => []
  let entries ← paths.mapM readEntry
  return ⟨entries.flatten, Settings.ofEnvironment (← readEnvironment), fun _ => .absent⟩

/-- The words for a failure that ends the program out of order. -/
def Failure.message : Failure → String
  | .complaint c => c.message
  | .settings ps => "; ".intercalate (ps.map Form.Problem.text)
  | .unknownLevel => "Unknown level"
  | .directory => "Is a directory"
  | .encoding => "Not UTF-8"
  | .longPath => "File name too long"
  | .badPath => "Embedded null byte"
  | .unwritable => "Unwritable default value"
  | .document _ => "Unwritable length"
  | .geometry _ => "Unexpected geometry"
  | .spareBox ps => "; ".intercalate (ps.map Form.Problem.text)

end QueryFlow.CommandLine

open QueryFlow.CommandLine in
/-- Run the program on its command line. -/
def main (arguments : List String) : IO UInt32 := do
  let course := course (← readWorld arguments) arguments
  (← IO.getStderr).putStr course.errors
  (← IO.getStdout).putStr course.output
  match course.ending with
  | .exit code => return code.toUInt32
  | .failed failure =>
    (← IO.getStderr).putStrLn failure.message
    return 1
