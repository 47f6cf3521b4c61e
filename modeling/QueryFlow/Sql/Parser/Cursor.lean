import QueryFlow.Sql.Expr
import QueryFlow.Sql.Fault

/-!
Reading a list of tokens from left to right. The cursor also holds the comments of the token read
last, which go to the next node that is made.
-/

namespace QueryFlow.Sql

/-- The tokens that are left, and comments that wait for a node. -/
structure Cursor where
  rest : List Token
  notes : List String := []

abbrev Parse := StateT Cursor (Except SyntaxError)

namespace Parse

def peek? : Parse (Option Token) := do return (← get).rest.head?

def rest : Parse (List Token) := do return (← get).rest

def fail {α : Type} (wanted : String) : Parse α := do
  throw (.expected wanted ((← peek?).map Token.shown))

/-- Step over the next `n` tokens. -/
def skip (n : Nat) : Parse Unit :=
  modify fun c =>
    match (c.rest.drop (n - 1)).head? with
    | some t => if n == 0 then c else ⟨c.rest.drop n, t.notes⟩
    | none => ⟨c.rest.drop n, c.notes⟩

def nextIs (test : Token → Bool) : Parse Bool := do return ((← peek?).map test).getD false

def secondIs (test : Token → Bool) : Parse Bool := do
  return (((← rest).drop 1).head?.map test).getD false

/-- Step over the next token when it satisfies the test. -/
def accept (test : Token → Bool) : Parse Bool := do
  if ← nextIs test then
    skip 1
    return true
  else return false

def atWord (w : String) : Parse Bool := nextIs (·.isWord w)

def atSymbol (s : String) : Parse Bool := nextIs (·.isSymbol s)

def word (w : String) : Parse Bool := accept (·.isWord w)

def symbol (s : String) : Parse Bool := accept (·.isSymbol s)

def oneOf (ws : List String) : Parse (Option String) := do
  match (← peek?).bind Token.word? with
  | some u =>
    if ws.contains u then
      skip 1
      return some u
    else return none
  | none => return none

def atWords (ws : List String) : Parse Bool := do
  let heads := ((← rest).take ws.length).filterMap Token.word?
  return heads == ws

/-- Step over these words when all of them follow. -/
def words (ws : List String) : Parse Bool := do
  if ← atWords ws then
    skip ws.length
    return true
  else return false

/-- Step over this symbol, which has to follow. -/
def expect (s : String) : Parse Unit := do
  unless ← symbol s do fail s

/-- Step over this word, which has to follow. -/
def expectWord (w : String) : Parse Unit := do
  unless ← word w do fail w

/-- Comments that wait, which are taken away. -/
def takeNotes : Parse (List String) := modifyGet fun c => (c.notes, { c with notes := [] })

/-- Make a node; waiting comments become its own. -/
def make (f : Form) (xs : List Expr := []) : Parse Expr := do return .node f (← takeNotes) xs

/-- Make a node with these comments, or with those that wait when there are none. -/
def makeWith (notes : List String) (f : Form) (xs : List Expr := []) : Parse Expr :=
  if notes.isEmpty then make f xs else return .node f notes xs

/-- Give waiting comments to a node. -/
def settle (e : Expr) : Parse Expr := do return e.annotate (← takeNotes)

/-- The answer of a reader; when it fails or answers nothing, the cursor stays where it was. -/
def attempt {α : Type} (p : Parse (Option α)) : Parse (Option α) := fun c =>
  match p.run c with
  | .ok (some a, c') => .ok (some a, c')
  | _ => .ok (none, c)

/-- The answer of a reader; when it answers nothing, the cursor stays where it was. -/
def backtrack {α : Type} (p : Parse (Option α)) : Parse (Option α) := fun c =>
  match p.run c with
  | .ok (none, _) => .ok (none, c)
  | r => r

/-- A reader whose answer is needed. -/
def need {α : Type} (wanted : String) (p : Parse (Option α)) : Parse α := do
  match ← p with
  | some a => return a
  | none => fail wanted

/-- Repeat a step while it answers, at most `n` times. -/
def loop {α : Type} (step : α → Parse (Option α)) : Nat → α → Parse α
  | 0, a => return a
  | n + 1, a => do
    match ← step a with
    | some b => loop step n b
    | none => return a

/-- Repeat a step while it answers. Every step has to read a token. -/
def iterate {α : Type} (start : α) (step : α → Parse (Option α)) : Parse α := do
  loop step ((← rest).length + 1) start

/-- Attach comments to the node read last. -/
def annotateHead (notes : List String) : List Expr → List Expr
  | [] => []
  | x :: xs => x.annotate notes :: xs

/-- Items with commas between them; a missing item counts as none. The flag tells whether the list
ends with a comma. Comments at a comma belong to the item in front of it. -/
def commaListFlag (item : Parse (Option Expr)) : Parse (List Expr × Bool) := do
  let first ← item
  let start : List Expr × Option Expr × Bool := (first.toList, first, false)
  let (items, _, trailing) ← iterate start fun (items, last, _) => do
    if ← symbol "," then
      let items ← if last.isSome then do
        let notes ← takeNotes
        pure (annotateHead notes items)
      else pure items
      let next ← item
      return some (next.toList ++ items, next, next.isNone)
    else return none
  return (items.reverse, trailing)

def commaList (item : Parse (Option Expr)) : Parse (List Expr) := do
  return (← commaListFlag item).1

def separated {α : Type} (item : Parse (Option α)) : Parse (List α) := do
  let first ← item
  let items ← iterate first.toList fun items => do
    if ← symbol "," then return some ((← item).toList ++ items) else return none
  return items.reverse

/-- A reader between parentheses, which have to follow. -/
def inParens {α : Type} (p : Parse α) : Parse α := do
  expect "("
  let a ← p
  expect ")"
  return a

/-- Step up to the closing parenthesis of a group whose opening one has been read. -/
def skipToClosing : Parse Unit := do
  let _ ← iterate 0 fun depth : Nat => do
    match ← peek? with
    | none => return none
    | some t =>
      if t.isSymbol ")" && depth == 0 then return none
      skip 1
      return some
        (if t.isSymbol "(" then depth + 1 else if t.isSymbol ")" then depth - 1 else depth)
  return ()

/-- Step over a balanced group of parentheses whose first one has been read. -/
def skipGroup : Parse Unit := do
  skipToClosing
  expect ")"

end Parse

end QueryFlow.Sql
