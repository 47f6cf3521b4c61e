/-!
Why a text is no SQL.
-/

namespace QueryFlow.Sql

/-- The reason for which a text is refused. -/
inductive SyntaxError where
  /-- A quote or bracket is opened and never closed. -/
  | unterminated (quote : String)
  /-- Something else was needed where this token stands, or at the end. -/
  | expected (wanted : String) (found : Option String)
  /-- A function has fewer or more arguments than it takes. -/
  | arguments (name : String)
  /-- The digits of a literal are none of its base. -/
  | digits (base : Nat)
  /-- A clause is given twice. -/
  | repeated (clause : String)
  deriving Repr, DecidableEq

namespace SyntaxError

def message : SyntaxError → String
  | .unterminated q => "Missing " ++ q
  | .expected w none => "Expected " ++ w ++ " but the text ends"
  | .expected w (some t) => "Expected " ++ w ++ " but found " ++ t
  | .arguments f => "Wrong number of arguments for " ++ f
  | .digits base => "Not a number in base " ++ toString base
  | .repeated c => "Found multiple '" ++ c ++ "' clauses"

end SyntaxError

end QueryFlow.Sql
