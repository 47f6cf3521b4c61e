import QueryFlow.Sql.Parser.Grammar

/-!
Reading lists of order items and what may follow a call: a filter, an order within the group, a rule
for nulls, and a window.
-/

namespace QueryFlow.Sql.Parse

open QueryFlow.Sql

/-- The rows that fill the gaps of an order, when they are asked for. -/
def fill? (g : Grammar) : Parse (Option Expr) := do
  unless ← words ["WITH", "FILL"] do return none
  let operandAfter (w : String) : Parse (Option Expr) := do
    if ← word w then g.bitwise else return none
  let parts := [("FROM", ← operandAfter "FROM"), ("TO", ← operandAfter "TO"),
    ("STEP", ← operandAfter "STEP")]
  if ← word "INTERPOLATE" then
    if ← symbol "(" then skipGroup
  let given := parts.filterMap fun (w, e) => e.map fun e => (w, e)
  let gaps := given.zipIdx.map fun ((w, _), i) => " " ++ w ++ " $" ++ toString (i + 1)
  return some (.of (.phrase ("WITH FILL" ++ String.join gaps)) (given.map (·.2)))

/-- An order item. Nulls stand where the text or, without a word about it, the dialect puts them. -/
def orderItem? (g : Grammar) : Parse (Option Expr) := do
  match ← g.condition with
  | none => return none
  | some e =>
    let up ← word "ASC"
    let down ← word "DESC"
    let descending := if down then some true else if up then some false else none
    let first ← words ["NULLS", "FIRST"]
    let last ← words ["NULLS", "LAST"]
    let implied := !first && !last && g.dialect.nullsComeFirst down
    let fill ← fill? g
    return some (← make (.ordered descending (first || implied)) (e :: fill.toList))

def orderItems (g : Grammar) : Parse (List Expr) := commaList (orderItem? g)

/-- One limit of a window frame, with its operand when it has one. -/
def frameBound (g : Grammar) : Parse (FrameBound × List Expr) := do
  let (fixed, operand) ←
    if ← word "UNBOUNDED" then pure (some "UNBOUNDED", [])
    else if ← words ["CURRENT", "ROW"] then pure (some "CURRENT ROW", [])
    else do
      let e ← need "a frame bound" g.bitwise
      pure (none, [e])
  let direction ← do
    if (← atWord "PRECEDING") || (← atWord "FOLLOWING") then
      let t ← peek?
      skip 1
      pure (t.map Token.shown)
    else pure none
  return (⟨fixed, direction⟩, operand)

/-- The frame of a window: what describes it, and its operands. -/
def frame? (g : Grammar) :
    Parse (Option (String × FrameBound × Option FrameBound × Option String) × List Expr) := do
  let t ← peek?
  match ← oneOf ["ROWS", "RANGE", "GROUPS"] with
  | none => return (none, [])
  | some _ =>
    let unit := (t.map Token.shown).getD ""
    let _ ← word "BETWEEN"
    let (low, lowOperand) ← frameBound g
    let (high, highOperand) ←
      if ← word "AND" then do
        let (b, xs) ← frameBound g
        pure (some b, xs)
      else pure (none, [])
    let excluded ←
      if ← word "EXCLUDE" then do
        if ← words ["CURRENT", "ROW"] then pure (some "CURRENT ROW")
        else if ← words ["NO", "OTHERS"] then pure (some "NO OTHERS")
        else oneOf ["GROUP", "TIES"]
      else pure none
    return (some (unit, low, high, excluded), lowOperand ++ highOperand)

/-- The inner part of a window up to its closing parenthesis, and its operands. -/
def windowBody (g : Grammar) (opening : String) : Parse (WindowShape × List Expr) := do
  let base ← nameExcept g.dialect ["RANGE", "ROWS", "GROUPS", "PARTITION"]
  let partitions ← if ← word "PARTITION BY" then commaList g.condition else pure []
  let orders ← if ← word "ORDER BY" then orderItems g else pure []
  let (frame, operands) ← frame? g
  expect ")"
  let named := base.isSome && partitions.isEmpty && orders.isEmpty && frame.isNone
  return (⟨opening, base, named, partitions.length, orders.length, frame⟩,
    partitions ++ orders ++ operands)

/-- A window over a call, when one follows. -/
def overWindow (g : Grammar) (e : Expr) : Parse Expr := do
  unless ← word "OVER" do return e
  if ← symbol "(" then
    let (shape, operands) ← windowBody g "OVER"
    makeWith e.notes (.window shape) (e.bare :: operands)
  else
    let n ← nameExcept g.dialect []
    makeWith e.notes (.window ⟨"OVER", n, true, 0, 0, none⟩) [e.bare]

def nullsRule (d : Dialect) (e : Expr) : Parse Expr := do
  if d.likeMysql then return e
  else if ← words ["IGNORE", "NULLS"] then make (.nullsRule "IGNORE NULLS") [e]
  else if ← words ["RESPECT", "NULLS"] then make (.nullsRule "RESPECT NULLS") [e]
  else return e

/-- The rows of a group that an aggregate looks at: the first or the last ones of an order. -/
def kept (g : Grammar) (e : Expr) : Parse Expr := do
  unless g.dialect == .oracle && (← atWord "KEEP") && (← secondIs (·.isSymbol "(")) do return e
  skip 2
  let ranked ← word "DENSE_RANK"
  let place ← oneOf ["FIRST", "LAST"]
  let _ ← word "ORDER BY"
  let xs ← orderItems g
  expect ")"
  let words := (if ranked then "DENSE_RANK " else "") ++ (place.map (· ++ " ")).getD ""
  make (.phrase ("$1 KEEP (" ++ words ++ "ORDER BY @2)")) (e :: xs)

/-- Everything that may follow a call. -/
def windowed (g : Grammar) (e : Expr) : Parse Expr := do
  let e ←
    if ← words ["WITHIN", "GROUP"] then do
      let orders ← inParens do
        let _ ← word "ORDER BY"
        orderItems g
      make .withinGroup (e :: orders)
    else pure e
  let filter := (← atWord "FILTER") && (← secondIs (·.isSymbol "("))
  let e ←
    if filter then do
      skip 2
      let _ ← word "WHERE"
      let c ← need "a condition" g.condition
      let node ← make .filtered [e, c]
      expect ")"
      pure node
    else pure e
  let e ← nullsRule g.dialect e
  let e ← kept g e
  overWindow g e

end QueryFlow.Sql.Parse
