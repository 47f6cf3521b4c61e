import QueryFlow.Sql.Render.Operator

/-!
The text of FROM items, windows, joins and whole queries from the texts of their clauses.
-/

namespace QueryFlow.Sql

namespace Render

def aliasTail (d : Dialect) : Option ItemAlias → String
  | none => ""
  | some a =>
    let typed := a.types ++ List.replicate a.columns.length ""
    let columns := (a.columns.zip typed).map fun (n, t) =>
      n.render d ++ if t.isEmpty then "" else " " ++ t
    let tail :=
      if columns.isEmpty || d == .bigquery || d == .sqlite then "" else wrapped (commas columns)
    let name := match a.name with
      | some n => n.render d
      | none => if d == .bigquery then "" else "_t0"
    (if d == .oracle then " " else " AS ") ++ name ++ tail

def itemText (d : Dialect) (body : String) (shown : Option ItemAlias)
    (parts : List (Form × String)) : String :=
  let join (keep : Form → Bool) : String := String.join ((parts.filter (keep ·.1)).map (·.2))
  let isVersion : Form → Bool
    | .version _ => true
    | _ => false
  let isSample : Form → Bool
    | .sample .. => true
    | _ => false
  let isMark : Form → Bool
    | .otherClause "ONLY" | .otherClause "WITH ORDINALITY" => true
    | _ => false
  let has (w : String) : Bool := parts.any fun (f, _) =>
    match f with
    | .otherClause x => x == w
    | _ => false
  let hintTexts := String.join ((parts.filter fun (f, t) =>
    !isVersion f && !isSample f && !isMark f && !t.isEmpty).map fun (f, t) =>
      match f with
      | .phrase _ => " " ++ t
      | _ => t)
  let name := aliasTail d shown
  (if has "ONLY" then "ONLY " else "") ++ body ++ (if d == .bigquery then "" else join isVersion)
    ++ (if d.likeHive then join isSample else "")
    ++ (if has "WITH ORDINALITY" then "" else name)
    ++ (if d == .bigquery then join isVersion else "") ++ hintTexts
    ++ (if d.likeHive then "" else join isSample)
    ++ (if has "WITH ORDINALITY" then " WITH ORDINALITY" ++ name else "")

/-- A frame bound; a bound that is no fixed word takes the next operand. -/
def boundText (b : FrameBound) (xs : List String) : String × List String :=
  let (value, rest) := match b.fixed with
    | some w => (w, xs)
    | none => (xs.head?.getD "", xs.drop 1)
  (value ++ (b.direction.map (" " ++ ·)).getD "", rest)

def frameText (xs : List String) :
    Option (String × FrameBound × Option FrameBound × Option String) → String
  | none => ""
  | some (unit, low, high, excluded) =>
    let (lowText, rest) := boundText low xs
    let highText := match high with
      | some b => (boundText b rest).1
      | none => "CURRENT ROW"
    unit ++ " BETWEEN " ++ lowText ++ " AND " ++ highText
      ++ (excluded.map (" EXCLUDE " ++ ·)).getD ""

def windowText (d : Dialect) (shape : WindowShape) (xs : List String) : String :=
  let parts := xs.take shape.partitions
  let orders := (xs.drop shape.partitions).take shape.orders
  let rest := xs.drop (shape.partitions + shape.orders)
  let base := (shape.base.map (Name.render d)).getD ""
  if shape.named then base
  else
    let pieces := [base,
      if parts.isEmpty then "" else "PARTITION BY " ++ commas parts,
      if orders.isEmpty then "" else "ORDER BY " ++ commas orders,
      frameText rest shape.frame]
    wrapped (" ".intercalate (pieces.filter (!·.isEmpty)))

def joinWordsText (k : JoinKind) : String :=
  let side := match k.side with
    | some .left => some "LEFT"
    | some .right => some "RIGHT"
    | some .full => some "FULL"
    | none => none
  " ".intercalate ([k.manner, side, k.kind].filterMap id)

def joinText (d : Dialect) (k : JoinKind) (xs : List String) : String :=
  let words := joinWordsText k
  let item := xs.head?.getD ""
  let condition :=
    if k.hasCondition then " ON " ++ (xs.drop 1).head?.getD ""
    else if k.shared.isEmpty then ""
    else " USING (" ++ commas (k.shared.map (Name.render d)) ++ ")"
  if words.isEmpty && condition.isEmpty then ", " ++ item
  else
    let opening :=
      if words == "STRAIGHT_JOIN" || words == "CROSS APPLY" || words == "OUTER APPLY" then words
      else if words.isEmpty then "JOIN" else words ++ " JOIN"
    " " ++ opening ++ " " ++ item ++ condition

def clauseRank : Form → Nat
  | .with _ => 0
  | .distinctOn => 1
  | .limit true => 2
  | .items => 3
  | .into => 4
  | .from => 5
  | .join _ => 6
  | .lateral _ => 7
  | .otherClause "PREWHERE" => 8
  | .where => 9
  | .connectBy .. => 10
  | .groupBy .. => 11
  | .having => 12
  | .windowNames => 13
  | .qualify => 14
  | .otherClause _ => 15
  | .orderBy => 16
  | .limit false => 17
  | .offset => 18
  | .fetch .. => 19
  | .lock _ => 20
  | .sample .. => 21
  | _ => 22

/-- Clauses in the order of the text, those of one kind in their own order. -/
def inTextOrder (xs : List Expr) (ts : List String) : List (Form × String) :=
  let pairs := (xs.map (·.form)).zip ts
  (List.range 23).flatMap fun rank => pairs.filter fun (f, _) => clauseRank f == rank

def selectText (distinct : Bool) (clauses : List (Form × String)) : String :=
  let texts (keep : Form → Bool) := String.join ((clauses.filter (keep ·.1)).map (·.2))
  let isWith : Form → Bool
    | .with _ => true
    | _ => false
  texts isWith ++ "SELECT" ++ (if distinct then " DISTINCT" else "") ++ texts (!isWith ·)

end Render

end QueryFlow.Sql
