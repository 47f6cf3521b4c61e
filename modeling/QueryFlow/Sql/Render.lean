import QueryFlow.Sql.Render.Call
import QueryFlow.Sql.Render.Clause
import QueryFlow.Sql.Restated

/-!
The text of a tree in a dialect. Keywords and known function names are in capitals, one blank stands
between tokens, and parentheses are those of the tree. A node that the dialect cannot write makes
the text of the whole tree the placeholder `(expr)`.
-/

namespace QueryFlow.Sql

namespace Render

def pathText (d : Dialect) (path : List Name) : List Expr → String
  | .node .pathNotes _ parts :: _ =>
    ".".intercalate ((path.zip parts).map fun (n, part) => n.render d ++ commentTail part.notes)
  | _ => Name.renderPath d path

/-- A call without its closing parentheses. -/
def openedCall (s : List Char) : List Char := (s.reverse.dropWhile (· == ')')).reverse

def nodeText (d : Dialect) (f : Form) (notes : List String) (xs : List Expr) (ts : List String) :
    Option String :=
  let first := ts.head?.getD ""
  let second := (ts.drop 1).head?.getD ""
  match f with
  | .column path => some (pathText d path xs)
  | .pathNotes => some ""
  | .star => some ("*" ++ String.join (ts.map (" " ++ ·)))
  | .allOf path =>
    some (pathText d path xs ++ ".*" ++ String.join ((ts.filter (!·.isEmpty)).map (" " ++ ·)))
  | .name n => some (n.render d)
  | .words s => some s
  | .number s => some s
  | .string s => some (Literal.quote d s)
  | .marked mark s => some (markedText d mark s)
  | .null => some "NULL"
  | .boolean b =>
    if d == .tsql then some (if b then "1" else "0") else some (if b then "TRUE" else "FALSE")
  | .placeholder name =>
    match name with
    | some s =>
      some (if d.likePostgres then "%(" ++ s
        ++ ")s" else (if d == .bigquery then "@" else if d == .duckdb then "$" else ":") ++ s)
    | none => some "?"
  | .moment s => some (momentText d s)
  | .phrase pattern => some (Phrase.fill (fillings xs ts) pattern)
  | .binary .is => some (isText d notes ((xs.drop 1).head?.map Expr.form) first second)
  | .binary op => some (binaryText d op notes first second)
  | .unary .not =>
    some ("NOT " ++ if (xs.head?.map (negationWraps d)).getD false then wrapped first else first)
  | .unary .negative => some ((if first.startsWith "-" then "- " else "-") ++ first)
  | .unary .complement => some (complementText d first)
  | .unary .squareRoot => some (callText "SQRT" ts)
  | .unary .cubeRoot => some (callText "CBRT" ts)
  | .present =>
    some (if d == .postgres then first ++ " IS NOT NULL"
      else if d == .clickhouse then "NOT (" ++ first ++ " IS NULL)"
      else "NOT " ++ first ++ " IS NULL")
  | .paren => some (wrapped first)
  | .tuple => some (wrapped (commas ts))
  | .between symmetric => some (betweenText d symmetric first second ((ts.drop 2).head?.getD ""))
  | .inList => some (first ++ " IN " ++ wrapped (commas (ts.drop 1)))
  | .inQuery => some (first ++ " IN " ++ wrapped second)
  | .inField => some (first ++ " IN " ++ second)
  | .case hasSubject hasElse =>
    if hasSubject then some ("CASE " ++ first ++ branchTexts hasElse (ts.drop 1) ++ " END")
    else some ("CASE" ++ branchTexts hasElse ts ++ " END")
  | .cast target safe => some (castText d target safe first)
  | .interval unit => intervalText? d unit xs.head? ts.head?
  | .extract =>
    let first := partText d xs.head? first
    some (match d with
      | .snowflake => callText "DATE_PART" [first, second]
      | .tsql => callText "DATEPART" [first, second]
      | _ => "EXTRACT(" ++ first ++ " FROM " ++ second ++ ")")
  | .subscript =>
    let list := match d, xs.head?.map Expr.form with
      | .postgres, some (.arrayLiteral _) => wrapped first
      | _, _ => first
    some (list ++ "[" ++ commas (ts.drop 1) ++ "]")
  | .slice => some (":".intercalate ts)
  | .arrayLiteral word => some (arrayText d word ts)
  | .dot =>
    some (first ++ "." ++ match (xs.drop 1).head?.map Expr.form with
      | some (.number s) => if d == .bigquery then (Name.inQuotes s).render d else s
      | _ => second)
  | .parameter =>
    some (if d.likeHive then "$\x7b" ++ first ++ "\x7d"
      else (if d.likePostgres || d == .duckdb || d == .snowflake then "$" else "@") ++ first)
  | .call name written known =>
    if known then knownCallText d name written xs ts else some (callText name ts)
  | .distinctArguments => some (distinctText d ts)
  | .orderedArgument => some (first ++ " ORDER BY " ++ commas (ts.drop 1))
  | .limitedArgument => some (first ++ " LIMIT " ++ second)
  | .namedArgument n s => some (n.render d ++ " " ++ s ++ " " ++ first)
  | .lambda parameters =>
    let names := parameters.map (Name.render d)
    some ((if names.length == 1 then commas names else wrapped (commas names)) ++ " -> " ++ first)
  | .joinedText orders hasSeparator hasLimit =>
    let limit := if hasLimit then ts.getLast? else none
    some (joinedText d orders hasSeparator limit ts)
  | .substring => some (substringText d ts)
  | .position => some (positionText d ts)
  | .trim side hasCharacters =>
    some (trimText d side (if hasCharacters then some second else none) first)
  | .overlay hasLength =>
    some ("OVERLAY(" ++ first ++ " PLACING " ++ second ++ " FROM " ++ (ts.drop 2).head?.getD ""
      ++ (if hasLength then " FOR " ++ ts.getLastD "" else "") ++ ")")
  | .filtered => some (first ++ " FILTER(WHERE " ++ second ++ ")")
  | .withinGroup =>
    let order := "ORDER BY " ++ commas (ts.drop 1)
    some (if d == .duckdb then String.ofList (openedCall first.toList) ++ " " ++ order ++ ")"
      else first ++ " WITHIN GROUP (" ++ order ++ ")")
  | .nullsRule rule => some (first ++ " " ++ rule)
  | .window shape =>
    some (first ++ " " ++ shape.opening ++ " " ++ windowText d shape (ts.drop 1))
  | .exists => some ("EXISTS" ++ wrapped first)
  | .any =>
    some (match xs.head?.map Expr.form with
      | some (.select _) | some (.setOperation _) => "ANY" ++ wrapped first
      | some .paren => "ANY" ++ first
      | _ => "ANY " ++ first)
  | .all =>
    some (match xs.head?.map Expr.form with
      | some .tuple | some .paren => "ALL " ++ first
      | _ => "ALL " ++ wrapped first)
  | .alias n => some (first ++ " AS " ++ n.render d)
  | .ordered descending nullsFirst =>
    let down := descending == some true
    let word := match descending with
      | some true => " DESC"
      | some false => " ASC"
      | none => ""
    let nulls :=
      match d.nullOrder, nullsFirst, down with
      | .large, true, false | .small, true, true | .last, true, _ => " NULLS FIRST"
      | .small, false, false | .large, false, true => " NULLS LAST"
      | _, _, _ => ""
    let tail := String.join ((ts.drop 1).map (" " ++ ·))
    if d.likeMysql || d == .tsql then
      -- there is no word for the place of nulls, but another order item can tell it
      let silent := nulls.isEmpty || match xs.head?.map Expr.form with
        | some (.number s) => s.all Char.isDigit
        | some (.call "RAND" _ true) => true
        | _ => false
      let before := if silent then "" else
        "CASE WHEN " ++ first ++ " IS NULL THEN 1 ELSE 0 END"
          ++ (if nullsFirst then " DESC, " else ", ")
      some (before ++ first ++ word ++ tail)
    else some (first ++ word ++ nulls ++ tail)
  | .groupingItem word => some (word ++ " " ++ wrapped (commas ts))
  | .subquery a =>
    let behind := ((xs.zip ts).drop 1).map fun (x, t) =>
      match x.form with
      | .phrase _ => if t.isEmpty then "" else " " ++ t
      | _ => t
    some (wrapped first ++ String.join behind ++ aliasTail d a)
  | .table path a =>
    let parts : List (Form × String) := (xs.zip ts).map fun (x, t) => (x.form, t)
    match path, parts with
    | [], (Form.rowsFrom, t) :: rest => some (itemText d t a rest)
    | _, _ => some (itemText d (Name.renderPath d path) a parts)
  | .rowsFrom => some ("ROWS FROM " ++ wrapped (commas ts))
  | .version pattern => some (" " ++ Phrase.fill (fillings xs ts) pattern)
  | .tableFunction a =>
    some (itemText d first a (((xs.zip ts).drop 1).map fun (x, t) => (x.form, t)))
  | .values a =>
    let body := "VALUES " ++ commas ts
    some (if a.isSome then wrapped body ++ aliasTail d a else body)
  | .lateral a => some ("LATERAL " ++ first ++ aliasTail d a)
  | .unnest a ordinality =>
    some (callText "UNNEST" ts ++ (if ordinality then " WITH ORDINALITY" else "") ++ aliasTail d a)
  | .final => some (first ++ " FINAL")
  | .select distinct => some (selectText distinct (inTextOrder xs ts))
  | .setOperation op =>
    let word := op.word ++ (if op.all then " ALL" else if d == .bigquery then " DISTINCT" else "")
      ++ (if op.byName then " BY NAME" else "")
    let rest := inTextOrder (xs.drop 2) (ts.drop 2)
    let isWith : Form → Bool
      | .with _ => true
      | _ => false
    some (String.join ((rest.filter (isWith ·.1)).map (·.2)) ++ first ++ commentTail notes ++ " "
      ++ word ++ " " ++ second
      ++ String.join ((rest.filter (!isWith ·.1)).map (·.2)))
  | .distinctOn => some (" ON " ++ wrapped (commas ts))
  | .items => some (if ts.isEmpty then "" else " " ++ commas ts)
  | .into => some (" INTO " ++ first)
  | .from => some (" FROM " ++ commas ts)
  | .join kind => some (joinText d kind ts)
  | .where => some (" WHERE " ++ first)
  | .connectBy noCycle hasStart =>
    let condition := if hasStart then second else first
    some ((if hasStart then " START WITH " ++ first else "") ++ " CONNECT BY"
      ++ (if noCycle then " NOCYCLE " else " ") ++ condition)
  | .groupBy modifier tail =>
    some (" GROUP BY" ++ modifier ++ (if ts.isEmpty then "" else " " ++ commas ts)
      ++ (if tail.isEmpty then "" else " " ++ tail))
  | .having => some (" HAVING " ++ first)
  | .qualify => some (" QUALIFY " ++ first)
  | .windowNames => some (" WINDOW " ++ commas ts)
  | .orderBy => some (" ORDER BY " ++ commas ts)
  | .limit top => some (if top && d == .tsql then " TOP " ++ first else " LIMIT " ++ first)
  | .offset => some (" OFFSET " ++ first ++ (if d == .tsql || d == .oracle then " ROWS" else ""))
  | .fetch direction percent withTies =>
    some (" FETCH " ++ direction ++ (if ts.isEmpty then "" else " " ++ first)
      ++ (if percent then " PERCENT" else "") ++ " ROWS "
        ++ (if withTies then "WITH TIES" else "ONLY"))
  | .lock s => some (if s.isEmpty then "" else " " ++ s)
  | .sample opening closing => some (" " ++ opening ++ first ++ closing)
  | .otherClause s => some (" " ++ s ++ (if ts.isEmpty then "" else " " ++ commas ts))
  | .with recursive =>
    let isTable : Expr → Bool
      | .node (.commonTable ..) .. => true
      | _ => false
    let pairs := xs.zip ts
    let tables := (pairs.filter (isTable ·.1)).map (·.2)
    let order := (pairs.filter (!isTable ·.1)).map (" " ++ ·.2)
    let word := if recursive && d != .oracle && d != .tsql then "RECURSIVE " else ""
    some ("WITH " ++ word ++ commas tables ++ String.join order ++ " ")
  | .commonTable a materialized =>
    let columns :=
      if a.columns.isEmpty then "" else wrapped (commas (a.columns.map (Name.render d)))
    let word := match materialized with
      | some true => "MATERIALIZED "
      | some false => "NOT MATERIALIZED "
      | none => ""
    some ((a.name.map (Name.render d)).getD "" ++ columns ++ " AS " ++ word ++ wrapped first)
  | .command _ | .unwritable => none

/-- Operators place their comments themselves. -/
def placesNotes : Form → Bool
  | .binary _ | .setOperation _ => true
  | _ => false

/-- Comments that stand in front of the text of a clause or query. -/
def leadsWithNotes : Form → Bool
  | .select _ | .from | .join _ | .where | .groupBy .. | .having | .orderBy | .with _ => true
  | _ => false

def withNotes (f : Form) (notes : List String) (s : String) : String :=
  if placesNotes f then s
  else if leadsWithNotes f then
    String.join ((notes.filter (!·.isEmpty)).map fun n => commentText n ++ " ") ++ s
  else s ++ commentTail notes

end Render

namespace Expr

mutual

/-- The text of a tree; none when some node cannot be written in the dialect. -/
def text? (d : Dialect) : Expr → Option String
  | node f notes xs =>
    match texts? d xs with
    | none => none
    | some ts => (Render.nodeText d f notes xs ts).map (Render.withNotes f notes)

def texts? (d : Dialect) : List Expr → Option (List String)
  | [] => some []
  | x :: xs =>
    match text? d x, texts? d xs with
    | some t, some ts => some (t :: ts)
    | _, _ => none

end

/-- What stands for a tree that cannot be written. -/
def unwritten : String := "(expr)"

def text (d : Dialect) (e : Expr) : String := ((e.restated d).text? d).getD unwritten

/-- The text of an expression that some other clause than the list of items holds. -/
def clauseText (d : Dialect) (e : Expr) : String :=
  (if d == .tsql then Restated.conditioned e else e).text d

/-- The dialect can write the expression in some other clause than the list of items. -/
def hasClauseText (d : Dialect) (e : Expr) : Bool :=
  (((if d == .tsql then Restated.conditioned e else e).restated d).text? d).isSome

end Expr

end QueryFlow.Sql
