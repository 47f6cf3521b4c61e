import QueryFlow.Sql.Parser.Command
import QueryFlow.Sql.Lexer

/-!
Reading statements and scripts. The rules of the grammar are tied together here, and a script is cut
at its semicolons; every statement has to use all of its tokens.
-/

namespace QueryFlow.Sql

namespace Parse

open QueryFlow.Sql

def statement? (g : Grammar) : Parse (Option Expr) := do
  match ← command? g with
  | some takesWith => return some (.of (.command takesWith))
  | none =>
    let start ← tableQuery? g
    let e ← if let some q := start then pure (some (← setOperations g q)) else do
      match ← aliased? g (condition? g) with
      | some e => pure (some (← setOperations g e))
      | none => query? g
    match e with
    | some e => return some (← clauses g e)
    | none => return none

/-- Named queries in front of a declaration, which change nothing about it. -/
def withDeclaration? (g : Grammar) : Parse (Option Unit) := attempt do
  match ← withClause? g with
  | some _ => if ← atWord "CREATE" then return some () else return none
  | none => return none

def fullStatement (g : Grammar) : Parse Statement := do
  let _ ← withDeclaration? g
  if ← word "CREATE" then createBody g
  else
    match ← statement? g with
    | some e =>
      match e.form with
      | .command _ => return .other
      | _ => return .query e
    | none => fail "a statement"

end Parse

namespace Grammar

/-- The grammar of a dialect with this many levels of nesting. -/
def level (d : Dialect) : Nat → Grammar
  | 0 => empty d
  | n + 1 =>
    let g := level d n
    { dialect := d
      priorCondition := Parse.condition? { g with readsPrior := true }
      condition := Parse.condition? g
      equality := Parse.equality? g
      bitwise := Parse.bitwise? g
      term := Parse.term? g
      unary := Parse.unary? g
      expression := Parse.aliased? g (Parse.condition? g)
      query := Parse.query? g
      plainQuery := Parse.plainQuery? g
      itemQuery := Parse.itemQuery? g
      item := Parse.item? g
      joins := Parse.joins g
      setOperations := Parse.setOperations g
      clauses := Parse.clauses g
      statement := Parse.statement? g
      dataType := Parse.anyType? g }

end Grammar

/-- Tokens cut at the semicolons. A semicolon with comments counts as a statement of its own. -/
def cutStatements : List Token → List (List Token)
  | [] => [[]]
  | t :: r =>
    match cutStatements r with
    | [] => [[t]]
    | first :: more =>
      if t.isSymbol ";" then
        if t.notes.isEmpty then [] :: first :: more else [] :: [t] :: first :: more
      else (t :: first) :: more

def readStatement (d : Dialect) (tokens : List Token) : Except SyntaxError Statement :=
  match tokens with
  | [t] =>
    if t.isSymbol ";" then .ok .other else read tokens
  | _ => read tokens
where
  read (tokens : List Token) : Except SyntaxError Statement :=
    let g := Grammar.level d (4 * tokens.length + 8)
    match (Parse.fullStatement g).run ⟨tokens, []⟩ with
    | .error e => .error e
    | .ok (s, c) =>
      match c.rest with
      | [] => .ok s
      | t :: _ => .error (.expected "the end of the statement" (some t.shown))

/-- The statements of a script, in order. Statements without any token do not count. -/
def readScript (d : Dialect) (text : String) : Except SyntaxError (List Statement) := do
  let ts ← tokens d text
  ((cutStatements ts).filter (!·.isEmpty)).mapM (readStatement d)

end QueryFlow.Sql
