import QueryFlow.Sql.Dialect
import QueryFlow.Text.Case

/-!
Tokens of SQL: words, quoted identifiers, literals and symbols, each with the comments that belong
to it. Words that only mean something together, such as `GROUP BY`, are one token.
-/

namespace QueryFlow.Sql

/-- The mark in front of a string literal that is not plain text. -/
inductive LiteralMark where
  | national | hexadecimal | bits | bytes | unicode | raw
  deriving Repr, DecidableEq

/-- What a token is. Quoted texts are held without their quotes and escapes. -/
inductive Lexeme where
  | word (text upper : String)
  | quoted (text : String)
  | string (text : String)
  | marked (mark : LiteralMark) (text : String)
  | number (text : String)
  | symbol (text : String)
  /-- Advice to a server about how to run a query. -/
  | hint
  deriving Repr, DecidableEq

structure Token where
  lexeme : Lexeme
  notes : List String := []
  deriving Repr, DecidableEq

namespace Token

def isWord (w : String) (t : Token) : Bool :=
  match t.lexeme with
  | .word _ u => u == w
  | _ => false

def isSymbol (s : String) (t : Token) : Bool :=
  match t.lexeme with
  | .symbol x => x == s
  | _ => false

def word? (t : Token) : Option String :=
  match t.lexeme with
  | .word _ u => some u
  | _ => none

/-- The text of the token as an error would name it. -/
def shown (t : Token) : String :=
  match t.lexeme with
  | .word s _ => s
  | .quoted s => s
  | .string s => s
  | .marked _ s => s
  | .number s => s
  | .symbol s => s
  | .hint => "a hint"

end Token

/-- Words that are one token when they stand side by side, in every dialect. -/
def commonPhrases : List (List String) :=
  [["GROUP", "BY"], ["ORDER", "BY"], ["PARTITION", "BY"], ["PARTITIONED", "BY"], ["CLUSTER", "BY"],
   ["DISTRIBUTE", "BY"], ["SORT", "BY"], ["CONNECT", "BY"], ["START", "WITH"], ["PRIMARY", "KEY"],
   ["FOREIGN", "KEY"], ["SIMILAR", "TO"], ["GROUPING", "SETS"], ["CHARACTER", "SET"],
   ["CHARACTER", "VARYING"], ["CHAR", "VARYING"], ["DOUBLE", "PRECISION"], ["FOR", "SYSTEM_TIME"],
   ["FOR", "VERSION"], ["FOR", "TIMESTAMP"]]

/-- Words that are one token when they stand side by side in a dialect. -/
def phrases (d : Dialect) : List (List String) :=
  (match d with
    | .oracle => [["ORDER", "SIBLINGS", "BY"], ["BULK", "COLLECT", "INTO"]]
    | .hive | .spark | .databricks => [["TIMESTAMP", "AS", "OF"], ["VERSION", "AS", "OF"]]
    | .snowflake => [["NCHAR", "VARYING"], ["FILE", "FORMAT"]]
    | .bigquery => [["ANY", "TYPE"], ["NOT", "DETERMINISTIC"]]
    | .mysql | .starrocks => [["SIGNED", "INTEGER"], ["UNSIGNED", "INTEGER"]]
    | .redshift => [["BINARY", "VARYING"]]
    | .tsql => [["CLUSTERED", "INDEX"], ["NONCLUSTERED", "INDEX"]]
    | _ => []) ++ commonPhrases

def startsWithPhrase : List String → List Token → Bool
  | [], _ => true
  | [w], t :: _ => t.isWord w
  | w :: ws, t :: ts => t.isWord w && t.notes.isEmpty && startsWithPhrase ws ts
  | _ :: _, [] => false

/-- Join the words that belong together; `fuel` is at least the number of tokens. -/
def joinPhrases (d : Dialect) : Nat → List Token → List Token
  | 0, ts => ts
  | _, [] => []
  | fuel + 1, t :: ts =>
    match (phrases d).find? fun ws => startsWithPhrase ws (t :: ts) with
    | some ws =>
      let text := " ".intercalate ws
      let rest := (t :: ts).drop ws.length
      let notes := (((t :: ts).drop (ws.length - 1)).head?.map Token.notes).getD []
      ⟨.word text text, notes⟩ :: joinPhrases d fuel rest
    | none => t :: joinPhrases d fuel ts

def joinWords (d : Dialect) (ts : List Token) : List Token := joinPhrases d ts.length ts

end QueryFlow.Sql
