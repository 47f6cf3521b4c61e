import QueryFlow.Sql.Expr

/-!
Single operations and calls said in other words where a dialect lacks them: conditions on the rows
of an aggregate, an order inside a call, truth values.
-/

namespace QueryFlow.Sql.Restated

/-- The dialect has no condition behind an aggregate. -/
def lacksFilter : Dialect → Bool
  | .bigquery | .snowflake | .tsql => true
  | _ => false

/-- An expression without the parentheses around it. -/
def withoutParens : Expr → Expr
  | .node .paren _ [x] => withoutParens x
  | e => e

/-- A truth value as a condition, where a dialect has no truth values. -/
def truthCondition (value : Bool) : Expr :=
  .of .paren [.of (.binary .equal) [.of (.number "1"), .of (.number (if value then "1" else "0"))]]

/-- Nodes under which a bit can stand for a truth value. -/
def takesBits : Form → Bool
  | .binary .equal | .binary .notEqual | .binary .is | .inList | .inQuery | .inField | .items
  | .alias _ | .values _ => true
  | _ => false

/-- An operand as a condition, unless a bit can stand in its place. -/
def conditioned (e : Expr) : Expr :=
  match e.form with
  | .boolean b => truthCondition b
  | _ => e

/-- A percentile of the values in an order, with the ordered value among its arguments. -/
def directPercentile? (d : Dialect) (e : Expr) : Option Expr :=
  match e with
  | .node .withinGroup n (.node (.call name w true) m (level :: _) :: orders) =>
    if name == "PERCENTILE_CONT" || name == "PERCENTILE_DISC" then
      match orders.head?.map Expr.operands with
      | some (value :: _) =>
        match d with
        | .duckdb =>
          some (.node .withinGroup n (.node (.call name w true) m [value, level] :: orders))
        | .databricks | .presto | .spark | .trino =>
          some (.of (.call "APPROX_QUANTILE" "APPROX_QUANTILE" true) [value, level])
        | _ => none
      | _ => none
    else none
  | _ => none

/-- One node, whose operands are restated already, as the dialect can say it. -/
def operation (d : Dialect) (e : Expr) : Expr :=
  match e with
  | .node (.binary .remainder) n [a, b] =>
    if d == .bigquery || d == .oracle then
      .node (.binary .remainder) n [withoutParens a, withoutParens b]
    else e
  | .node .filtered n [.node f m (x :: xs), condition] =>
    if lacksFilter d then
      .node f (m ++ n) (.of (.call "IF" "IF" true) [condition, x, .of .null] :: xs)
    else e
  | .node (.call "ARRAY_AGG" w true) n [.node .orderedArgument _ (x :: orders)] =>
    if d == .snowflake then
      .node .withinGroup n (.of (.call "ARRAY_AGG" w true) [x] :: orders)
    else e
  | .node (.joinedText orders hasSeparator hasLimit) n
      (.node .distinctArguments _ (x :: _) :: xs) =>
    if d == .tsql then .node (.joinedText orders hasSeparator hasLimit) n (x :: xs) else e
  | .node .withinGroup .. => (directPercentile? d e).getD e
  | .node (.binary .is) n [a, .node (.boolean b) m ys] =>
    if d == .tsql then .node (.binary .equal) n [a, .node (.boolean b) m ys] else e
  | .node f n xs =>
    if d == .tsql && !takesBits f then .node f n (xs.map conditioned) else e

end QueryFlow.Sql.Restated
