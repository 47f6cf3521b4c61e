import QueryFlow.Sql.Expr
import QueryFlow.Sql.Function
import QueryFlow.Sql.Restated.Operation

/-!
Queries said in other words where a dialect lacks a clause. A condition on windows becomes a
condition on the rows of an inner query, and a join that only asks for partners becomes a condition
that they exist.
-/

namespace QueryFlow.Sql

namespace Restated

/-- The dialect has no clause for conditions on windows. -/
def lacksQualify : Dialect → Bool
  | .hive | .mysql | .oracle | .postgres | .presto | .spark | .sqlite | .starrocks | .trino
  | .tsql => true
  | _ => false

/-- The dialect has no joins that only ask for partners. -/
def lacksPartnerJoins : Dialect → Bool
  | .bigquery | .mysql | .postgres | .presto | .redshift | .snowflake | .sqlite | .starrocks
  | .trino | .tsql => true
  | _ => false

/-- The first of the names `base`, `base_2`, `base_3`, … that is not taken; `fuel` is larger than
the number of taken names. -/
def freshFrom (taken : List String) (base : String) : Nat → Nat → String
  | 0, n => base ++ "_" ++ toString n
  | fuel + 1, n =>
    let s := base ++ "_" ++ toString n
    if taken.contains s then freshFrom taken base fuel (n + 1) else s

def fresh (taken : List String) (base : String) : String :=
  if taken.contains base then freshFrom taken base (taken.length + 1) 2 else base

/-- The name under which an item of a SELECT list is known. -/
def itemName (e : Expr) : String :=
  match e.form with
  | .alias n => n.text
  | .star => "*"
  | _ => e.spanName

def columnOf (n : Name) : Expr := .of (.column [n])

def namedItems (taken : List String) : List Expr → List Expr
  | [] => []
  | e :: r =>
    if (itemName e).isEmpty then
      let shown := fresh taken "_c"
      .of (.alias (.bare shown)) [e] :: namedItems (shown :: taken) r
    else e :: namedItems taken r

/-- What the outer query asks for in place of an item of the inner one. -/
def outerItem (e : Expr) : Expr :=
  match e.form with
  | .alias n => columnOf n
  | .column path => (path.getLast?.map columnOf).getD e
  | .star => .of .star
  | _ => columnOf (.bare (itemName e))

/-- The nodes of several trees, level by level; `fuel` is at least the height of the trees. -/
def levels : Nat → List Expr → List Expr
  | 0, _ => []
  | _, [] => []
  | fuel + 1, xs => xs ++ levels fuel (xs.flatMap Expr.operands)

/-- The number of nodes of a tree. -/
def size (e : Expr) : Nat := e.subterms.length

/-- A tree in which columns that are names of other items are replaced by these. -/
def expanded (known : List (String × Expr)) : Expr → Expr
  | .node f n xs =>
    match f with
    | .column [c] => (known.lookup c.text).getD (.node f n [])
    | _ => .node f n (xs.attach.map fun ⟨x, _⟩ => expanded known x)

/-- The windows of a condition replaced by columns, with the items that give them. The names that
are taken grow with each of them. -/
structure Split where
  condition : Expr
  added : List Expr
  taken : List String

mutual

/-- A condition without windows. -/
def withoutWindows (known : List (String × Expr)) (taken : List String) : Expr → Split
  | .node f n xs =>
    match f with
    | .window _ =>
      let shown : Name := .bare (fresh taken "_w")
      ⟨columnOf shown, [.of (.alias shown) [expanded known (.node f n xs)]], shown.text :: taken⟩
    | _ =>
      let (ys, added, taken) := withoutWindowsAll known taken xs
      ⟨.node f n ys, added, taken⟩

/-- Conditions without windows. -/
def withoutWindowsAll (known : List (String × Expr)) (taken : List String) :
    List Expr → List Expr × List Expr × List String
  | [] => ([], [], taken)
  | x :: xs =>
    let one := withoutWindows known taken x
    let (ys, more, taken) := withoutWindowsAll known one.taken xs
    (one.condition :: ys, one.added ++ more, taken)

end

/-- The columns of a condition that the items do not give yet. -/
def missingColumns (taken : List String) : List Expr → List Expr
  | [] => []
  | e :: r =>
    match e.form with
    | .column path =>
      match path.getLast? with
      | some n =>
        if taken.contains n.text then missingColumns taken r
        else e :: missingColumns (n.text :: taken) r
      | none => missingColumns taken r
    | _ => missingColumns taken r

/-- The query without its condition on windows. -/
def unqualified (q : Expr) : Expr :=
  match q with
  | .node (.select distinct) notes parts =>
    let condition? := parts.findSome? fun p =>
      match p with
      | .node .qualify _ [c] => some c
      | _ => none
    match condition? with
    | none => q
    | some c =>
      let items := parts.flatMap fun p =>
        match p.form with
        | .items => p.operands
        | _ => []
      let items := namedItems (items.map itemName) items
      let known := items.filterMap fun e =>
        match e with
        | .node (.alias n) _ [x] => some (n.text, x)
        | _ => none
      let split := withoutWindows known (items.map itemName) c
      let isStar := items.any fun e =>
        match e.form with
        | .star | .allOf _ => true
        | _ => false
      let columns := if isStar then [] else missingColumns split.taken (levels (size c) [c])
      let inner := parts.filterMap fun p =>
        match p with
        | .node .qualify .. => none
        | .node .items n _ => some (.node .items n (items ++ split.added ++ columns))
        | p => some p
      let whole := Expr.node (.select distinct) notes inner
      let table : ItemAlias := { name := some (.bare "_t") }
      .of (.select false)
        [.of .items (items.map outerItem), .of .from [.of (.subquery (some table)) [whole]],
         .of .where [split.condition]]
  | q => q

def besideOther (e : Expr) : Expr :=
  match e.form with
  | .binary .and | .binary .or | .binary .xor => .of .paren [e]
  | _ => e

/-- The condition that a row has a partner, or has none. -/
def partnerCondition? (join : Expr) : Option Expr :=
  match join with
  | .node (.join k) _ [item, on] =>
    let exists' : Expr := .of .exists
      [.of (.select false) [.of .items [.of (.number "1")], .of .from [item], .of .where [on]]]
    match k.kind with
    | some "SEMI" => if k.hasCondition then some exists' else none
    | some "ANTI" => if k.hasCondition then some (.of (.unary .not) [exists']) else none
    | _ => none
  | _ => none

/-- The query with a further condition on its rows. -/
def restricted (q condition : Expr) : Expr :=
  let isWhere (p : Expr) : Bool :=
    match p.form with
    | .where => true
    | _ => false
  match q with
  | .node f n parts =>
    if parts.any isWhere then
      .node f n (parts.map fun p =>
        match p with
        | .node .where m [old] =>
          .node .where m [.of (.binary .and) [besideOther old, condition]]
        | p => p)
    else .node f n (parts ++ [.of .where [condition]])

/-- The query without joins that only ask for partners. -/
def partnered (q : Expr) : Expr :=
  match q with
  | .node (.select distinct) n parts =>
    let conditions := parts.filterMap partnerCondition?
    let kept := parts.filter fun p => (partnerCondition? p).isNone
    conditions.foldl restricted (.node (.select distinct) n kept)
  | q => q

/-- The windows of a dialect say nothing about the place of nulls: those with a frame where an order
needs a further item for it, and those over aggregates where a word for it is refused. -/
def silencesNulls (d : Dialect) (e : Expr) : Bool :=
  match e with
  | .node (.window shape) _ (x :: _) =>
    ((d.likeMysql || d == .tsql) && shape.frame.isSome) || (d == .bigquery && match x.form with
      | .call name _ true => Function.aggregateNames.contains name
      | _ => false)
  | _ => false

/-- A window whose order leaves the place of nulls to the dialect. -/
def withoutNullPlaces (d : Dialect) (e : Expr) : Expr :=
  match e with
  | .node (.window shape) n xs =>
    .node (.window shape) n (xs.map fun x =>
      match x with
      | .node (.ordered down _) m ys =>
        .node (.ordered down (d.nullsComeFirst (down == some true))) m ys
      | x => x)
  | e => e

end Restated

def Expr.restated (d : Dialect) : Expr → Expr
  | .node f n xs =>
    let e := Restated.operation d (.node f n (xs.attach.map fun ⟨x, _⟩ => Expr.restated d x))
    let e := if Restated.silencesNulls d e then Restated.withoutNullPlaces d e else e
    let e := if Restated.lacksPartnerJoins d then Restated.partnered e else e
    if Restated.lacksQualify d then Restated.unqualified e else e

end QueryFlow.Sql
