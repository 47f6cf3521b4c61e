import QueryFlow.Sql.Parser.Interval

/-!
Reading operators, from those in front of an operand up to whole conditions, and the name that may
follow an expression. Each level of operators is a rule over the level below it. Comments at an
operator stay with comparisons, conjunctions and arithmetic; at the other operators they are lost.
-/

namespace QueryFlow.Sql.Parse

open QueryFlow.Sql

/-- An operand without operators in front of it. -/
def operand? (g : Grammar) : Parse (Option Expr) := do
  if let some e ← binaryOperand? g then return some e
  match ← interval? g with
  | some e => return some (← columnTail g e)
  | none =>
    match ← typedLiteral? g with
    | some e => return some e
    | none =>
      match ← atom? g with
      | some e =>
        let e ← columnTail g e
        if atJoinMark g.dialect (← rest) then
          skip 3
          return some (← make (.phrase "$1 (+)") [e])
        else return some e
      | none => bracketed? g

def zonedOperand (g : Grammar) (e : Expr) : Parse Expr :=
  iterate e fun e => do
    if ← words ["AT", "TIME", "ZONE"] then
      let z ← need "a time zone" g.unary
      return some (← settle (Function.zoned g.dialect e z))
    else return none

def unary? (g : Grammar) : Parse (Option Expr) := do
  let after (op : UnaryOp) (p : Parse (Option Expr)) : Parse (Option Expr) := do
    skip 1
    let x ← need "an operand" p
    return some (← make (.unary op) [x])
  match ← peek? with
  | none => return none
  | some t =>
    if t.isSymbol "+" then
      skip 1
      g.unary
    else if t.isSymbol "-" then after .negative g.unary
    else if t.isSymbol "~" then after .complement g.unary
    else if g.dialect.likePostgres && (t.isWord "REGEXP" || t.isWord "RLIKE") then
      -- the words mean the same as the sign
      after .complement g.unary
    else if g.dialect == .duckdb && t.isSymbol "@" then
      skip 1
      let x ← need "an operand" g.bitwise
      return some (← make (.call "ABS" "ABS" true) [x])
    else if t.isSymbol "!" && g.dialect.likeMysql then
      skip 1
      let x ← need "an operand" g.unary
      return some (.of .paren [.of (.unary .not) [x]])
    else if t.isWord "NOT" || (t.isSymbol "!" && g.dialect != .snowflake) then
      after .not g.equality
    else if t.isSymbol "|/" then after .squareRoot g.unary
    else if t.isSymbol "||/" then after .cubeRoot g.unary
    else match ← operand? g with
      | some e => return some (← zonedOperand g e)
      | none => return none

def leftChain (operand : Parse (Option Expr)) (op? : Token → Option BinaryOp) :
    Parse (Option Expr) := do
  match ← operand with
  | none => return none
  | some e =>
    let e ← iterate e fun e => do
      match (← peek?).bind op? with
      | none => return none
      | some op =>
        skip 1
        let notes ← takeNotes
        let r ← need "an operand" operand
        return some (← makeWith notes (.binary op) [e, r])
    return some e

def symbolOp (table : List (String × BinaryOp)) (t : Token) : Option BinaryOp :=
  match t.lexeme with
  | .symbol s => table.lookup s
  | _ => none

/-- Powers, where a caret means them. -/
def power? (g : Grammar) : Parse (Option Expr) :=
  if g.dialect.caretIsPower then
    leftChain (unary? g)
      (symbolOp (("^", .power) :: if g.dialect == .duckdb then [("**", .power)] else []))
  else unary? g

/-- A whole division in front of another one stands in parentheses. -/
def dividend (e : Expr) : Expr :=
  match e.form with
  | .binary .wholeDivide => .of .paren [e]
  | _ => e

def factor? (g : Grammar) : Parse (Option Expr) := do
  match ← power? g with
  | none => return none
  | some e =>
    let e ← iterate e fun e => do
      match ← peek? with
      | none => return none
      | some t =>
        if t.isWord "DIV" && !(ownFree g.dialect).contains "DIV" then
          backtrack do
            skip 1
            let notes ← takeNotes
            match ← power? g with
            | some r => return some (← makeWith notes (.binary .wholeDivide) [dividend e, r])
            | none => return none
        else
          let table := [("*", BinaryOp.multiply), ("/", .divide), ("<->", .distance),
            ("<<->>", .boxDistance)]
            ++ (if g.dialect == .duckdb then [("//", .wholeDivide)] else [])
          match symbolOp table t with
          | none => return none
          | some op =>
            skip 1
            let notes ← takeNotes
            let r ← need "an operand" (power? g)
            return some (← makeWith notes (.binary op) [e, r])
    return some e

/-- Sums, differences and remainders, and the order that texts are compared in. -/
def term? (g : Grammar) : Parse (Option Expr) := do
  let op? (t : Token) : Option BinaryOp :=
    if t.isWord "COLLATE" then some .collate
    else if t.isWord "MOD" && g.dialect.likeMysql then some .remainder
    else symbolOp [("+", .add), ("-", .subtract), ("%", .remainder)] t
  match ← factor? g with
  | none => return none
  | some e =>
    let e ← iterate e fun e => do
      match (← peek?).bind op? with
      | none => return none
      | some op =>
        skip 1
        let notes ← takeNotes
        let r ← need "an operand" (factor? g)
        let r := match op, r with
          | .collate, .node (.column [n]) ns _ =>
            .node (if n.quoted then .name n else .words n.text) ns []
          | _, r => r
        return some (← makeWith notes (.binary op) [e, r])
    return some e

/-- Operators on bits, and texts side by side. -/
def bitwise? (g : Grammar) : Parse (Option Expr) := do
  let d := g.dialect
  let table : List (String × BinaryOp) :=
    [("&", .bitAnd), ("|", .bitOr)]
      ++ (if d.caretIsPower then [] else [("^", BinaryOp.bitXor)])
      ++ (if d.likePostgres then [("#", BinaryOp.bitXor)] else [])
      ++ (if d.bars == .concatenation then [("||", BinaryOp.concatenate)] else [])
  match ← term? g with
  | none => return none
  | some e =>
    let e ← iterate e fun e => do
      match ← rest with
      | t :: u :: _ =>
        let shift := if t.isSymbol "<" && u.isSymbol "<" then some BinaryOp.shiftLeft
          else if t.isSymbol ">" && u.isSymbol ">" then some .shiftRight else none
        match shift with
        | some op =>
          skip 2
          let r ← need "an operand" (term? g)
          return some (← make (.binary op) [e, r])
        | none =>
          if t.isSymbol "??" then
            skip 1
            let r ← need "an operand" (term? g)
            return some (← make (.call "COALESCE" "COALESCE" true) [e, r])
          else match symbolOp table t with
            | some op =>
              skip 1
              let r ← need "an operand" (term? g)
              return some (← make (.binary op) [e, r])
            | none => return none
      | _ => return none
    return some e

def inTail (g : Grammar) (e : Expr) : Parse Expr := do
  if (← symbol "(") || (← symbol "[") then
    let xs ← commaList (queryOrExpression g false)
    let node ← do
      match xs with
      | [q] =>
        match q.form with
        | .select .. | .setOperation _ | .subquery _ | .table .. =>
          let q ← g.clauses q
          make .inQuery [e, q]
        | _ => make .inList [e, q]
      | xs => make .inList (e :: xs)
    unless (← symbol ")") || (← symbol "]") do fail ")"
    settle node
  else
    match ← atom? g with
    | some x =>
      let x ← columnTail g x
      make .inField [e, x]
    | none => fail "a list"

/-- A membership that is tested on all servers alike. -/
def globalIn? (g : Grammar) (e : Expr) : Parse (Option Expr) := backtrack do
  unless g.dialect == .clickhouse && (← word "GLOBAL") do return none
  let shown := if ← word "NOT" then " GLOBAL NOT IN " else " GLOBAL IN "
  unless ← word "IN" do return none
  match ← inTail g e with
  | .node .inList n xs => return some (.node (.phrase ("$1" ++ shown ++ "(@2)")) n xs)
  | .node .inQuery n xs => return some (.node (.phrase ("$1" ++ shown ++ "($2)")) n xs)
  | .node _ n xs => return some (.node (.phrase ("$1" ++ shown ++ "$2")) n xs)

/-- What `IS JSON` says about the kind of document. -/
def documentKind : Parse String := do
  let kind ← oneOf ["VALUE", "SCALAR", "ARRAY", "OBJECT"]
  let manner ← oneOf ["WITH", "WITHOUT"]
  let unique ← word "UNIQUE"
  let _ ← word "KEYS"
  let tail (w : Option String) : String := (w.map (" " ++ ·)).getD ""
  return "JSON" ++ tail kind ++ tail manner ++ if unique then " UNIQUE KEYS" else ""

def isTail? (g : Grammar) (e : Expr) : Parse (Option Expr) := backtrack do
  let negated ← word "NOT"
  if ← words ["DISTINCT", "FROM"] then
    let r ← need "an operand" g.bitwise
    return some (← make (.binary (if negated then .sameAs else .differsFrom)) [e, r])
  let r ← do
    if ← word "JSON" then
      let kind ← documentKind
      pure (some (← make (.words kind)))
    else
      match ← oneOf (if g.dialect == .sqlite then ["NULL"] else ["NULL", "UNKNOWN"]) with
      | some _ => pure (some (← make .null))
      | none => g.bitwise
  match r with
  | none => return none
  | some r =>
    let node ← do
      match negated, r.form with
      | true, .null => make .present [e]
      | true, _ => do
        let inner ← make (.binary .is) [e, r]
        make (.unary .not) [inner]
      | false, _ => make (.binary .is) [e, r]
    return some (← columnTail g node)

def escapeTail (g : Grammar) (e : Expr) : Parse Expr := do
  if ← word "ESCAPE" then
    let c ← need "a string" (literal? g)
    make (.binary .escape) [e, c]
  else return e

def rangeSymbols (d : Dialect) : List (String × BinaryOp) :=
  [("@>", .contains), ("<@", .containedIn), ("~~", .like), ("~~*", .likeFolded), ("~~~", .glob),
   ("~*", .matchingFolded), ("&<", .extendsRight), ("&>", .extendsLeft), ("-|-", .adjacent),
   ("?|", .jsonHasAnyKey), ("?&", .jsonHasAllKeys), ("#-", .jsonDelete), ("@?", .jsonHasPath),
   ("@@", .textSearch), ("^@", .startsWith)]
    ++ (if d.likePostgres || d == .duckdb then [("~", BinaryOp.matching)] else [])
    ++ (if d.likeMysql then [] else [("&&", BinaryOp.overlaps)])

def rangeWords (d : Dialect) : List (String × BinaryOp) :=
  [("LIKE", .like), ("ILIKE", .likeFolded), ("RLIKE", .matching), ("REGEXP", .matching),
   ("SIMILAR TO", .similarTo), ("GLOB", .glob), ("OVERLAPS", .periodOverlaps)]
    ++ if d == .sqlite then [("MATCH", .matches)] else []

/-- A negated comparison. Patterns have their negation inside, but one dialect has no such word. -/
def negated (d : Dialect) (e : Expr) : Parse Expr := do
  match e with
  | .node .inQuery n [a, q] =>
    if d == .snowflake then
      return .node (.binary .notEqual) n [a, .of .all [q]]
    else make (.unary .not) [e]
  | .node (.binary .like) n xs => return .node (.binary .notLike) n xs
  | .node (.binary .likeFolded) n xs =>
    if d == .snowflake then make (.unary .not) [e]
    else return .node (.binary .notLikeFolded) n xs
  | .node (.binary .escape) n [.node (.binary .like) m xs, c] =>
    return .node (.binary .escape) n [.node (.binary .notLike) m xs, c]
  | .node (.binary .escape) n [.node (.binary .likeFolded) m xs, c] =>
    if d == .snowflake then make (.unary .not) [e]
    else return .node (.binary .escape) n [.node (.binary .notLikeFolded) m xs, c]
  | e => make (.unary .not) [e]

/-- The pattern behind `LIKE`, which may be any or all of several. -/
def patternOperand (g : Grammar) : Parse Expr := do
  let several := (← nextIs fun t => t.isWord "ALL" || t.isWord "SOME" || t.isWord "ANY")
    && (← secondIs (·.isSymbol "("))
  let isQuery := ((← rest).drop 2).head?.elim false fun t => t.isWord "SELECT" || t.isWord "WITH"
  if several && !isQuery then
    let every ← atWord "ALL"
    skip 1
    let x ← need "a pattern" g.bitwise
    make (if every then .all else .any) [x]
  else need "an operand" g.bitwise

/-- A comparison with this operator. Some look at the right side first. -/
def comparisonOf (g : Grammar) (op : BinaryOp) (e : Expr) : Parse Expr := do
  let d := g.dialect
  let r ← if op == .like || op == .likeFolded then patternOperand g
    else need "an operand" g.bitwise
  match op with
  | .textSearch => make (.phrase "$2 @@@@ $1") [r, e]
  | .startsWith => make (.call "STARTS_WITH" "STARTS_WITH" true) [e, r]
  | .matching =>
    if d == .duckdb then make (.phrase "REGEXP_FULL_MATCH($1, $2)") [e, r]
    else make (.binary .matching) [e, r]
  | op => make (.binary op) [e, r]

def betweenTail (g : Grammar) (e : Expr) : Parse Expr := do
  let symmetric ← do
    if ← word "SYMMETRIC" then pure (some true)
    else if ← word "ASYMMETRIC" then pure (some false)
    else pure none
  let low ← need "a bound" g.bitwise
  let _ ← word "AND"
  let high ← need "a bound" g.bitwise
  make (.between symmetric) [e, low, high]

/-- An operator by its full name, such as `OPERATOR(pg_catalog.+)`. -/
def namedOperator (g : Grammar) (e : Expr) : Parse Expr := do
  expect "("
  let name ← iterate "" fun name => do
    match ← peek? with
    | none => return none
    | some t =>
      if t.isSymbol ")" then return none
      skip 1
      return some (name ++ t.shown)
  expect ")"
  let r ← need "an operand" g.bitwise
  make (.phrase ("$1 OPERATOR(" ++ Phrase.literal name ++ ") $2")) [e, r]

/-- The items of a list for which a value is computed. -/
def comprehension? (g : Grammar) (e : Expr) : Parse (Option Expr) := backtrack do
  unless ← word "FOR" do return none
  match ← name? g.dialect with
  | none => return none
  | some n =>
    let place ← if ← symbol "," then name? g.dialect else pure none
    unless ← word "IN" do return none
    let list ← need "a list" g.unary
    let condition ← if ← word "IF" then g.condition else pure none
    let names := ", ".intercalate ((n :: place.toList).map (Name.render g.dialect))
    let pattern := "$1 FOR " ++ Phrase.literal names ++ " IN $2"
      ++ if condition.isSome then " IF $3" else ""
    return some (← make (.phrase pattern) (e :: list :: condition.toList))

def comparisonTail? (g : Grammar) (e : Expr) : Parse (Option Expr) := do
  match ← peek? with
  | none => return none
  | some t =>
    let wordOp := t.word?.bind fun u => (rangeWords g.dialect).lookup u
    match (wordOp <|> symbolOp (rangeSymbols g.dialect) t) with
    | some op =>
      skip 1
      return some (← escapeTail g (← comparisonOf g op e))
    | none =>
      if ← word "BETWEEN" then return some (← betweenTail g e)
      else if ← word "IN" then return some (← inTail g e)
      else if ← word "ISNULL" then
        let n ← make .null
        return some (← make (.binary .is) [e, n])
      else if g.dialect.likeMysql && (← words ["MEMBER", "OF"]) then
        let list ← inParens (need "a list" g.expression)
        return some (← make (.call "JSON_ARRAY_CONTAINS" "JSON_ARRAY_CONTAINS" true) [e, list])
      else if g.dialect.likeMysql && (← words ["SOUNDS", "LIKE"]) then
        let r ← need "an operand" g.bitwise
        return some (← make (.phrase "SOUNDEX($1) = SOUNDEX($2)") [e, r])
      else if g.dialect == .postgres && t.isWord "OPERATOR" && (← secondIs (·.isSymbol "(")) then
        skip 1
        return some (← namedOperator g e)
      else if let some x ← globalIn? g e then return some x
      else comprehension? g e

/-- One comparison with a pattern, a range or a list, which may be negated. -/
def rangeStep? (g : Grammar) (e : Expr) : Parse (Option Expr) := backtrack do
  let negating ← if ← word "NOT" then pure true else symbol "!"
  match ← comparisonTail? g e with
  | some x => return some (← if negating then negated g.dialect x else pure x)
  | none =>
    if negating then
      if ← word "NULL" then return some (← make .present [e]) else return none
    else if ← word "NOTNULL" then return some (← make .present [e])
    else return none

def range? (g : Grammar) : Parse (Option Expr) := do
  match ← bitwise? g with
  | none => return none
  | some e => return some (← iterate e (rangeStep? g))

def comparison? (g : Grammar) : Parse (Option Expr) :=
  leftChain (range? g)
    (symbolOp [("<", .less), ("<=", .lessEqual), (">", .greater), (">=", .greaterEqual)])

/-- A comparison stands in parentheses in front of `IS`. -/
def tested (e : Expr) : Expr :=
  match e.form with
  | .binary .equal | .binary .notEqual | .binary .sameAs | .binary .less | .binary .lessEqual
  | .binary .greater | .binary .greaterEqual => .of .paren [e]
  | _ => e

/-- What `IS` says stands in parentheses in front of a comparison. -/
def compared (e : Expr) : Expr :=
  match e.form with
  | .binary .is | .present => .of .paren [e]
  | _ => e

/-- Comparisons of equality and what `IS` says about a value, from left to right. -/
def equality? (g : Grammar) : Parse (Option Expr) := do
  match ← comparison? g with
  | none => return none
  | some e =>
    let e ← iterate e fun e => do
      if ← atWord "IS" then
        backtrack do
          skip 1
          isTail? g (tested e)
      else
        match (← peek?).bind (symbolOp [("=", .equal), ("==", .equal), ("<>", .notEqual),
          ("!=", .notEqual), ("<=>", .sameAs)]) with
        | none => return none
        | some op =>
          skip 1
          let notes ← takeNotes
          let r ← need "an operand" (comparison? g)
          return some (← makeWith notes (.binary op) [compared e, r])
    return some e

def conjunction? (g : Grammar) : Parse (Option Expr) :=
  leftChain (equality? g) fun t =>
    if t.isWord "AND" then some .and
    else if g.dialect.likeMysql && t.isSymbol "&&" then some .and
    else if g.dialect.likeMysql && t.isWord "XOR" then some .xor
    else none

/-- Conditions of which one has to hold. -/
def disjunction? (g : Grammar) : Parse (Option Expr) :=
  leftChain (conjunction? g) fun t =>
    if t.isWord "OR" then some .or
    else if g.dialect.bars == .disjunction && t.isSymbol "||" then some .or
    else none

/-- What is assigned to: a name by itself is no column. -/
def assigned (e : Expr) : Expr :=
  match e with
  | .node (.column [n]) notes xs => .node (.name n) notes xs
  | e => e

/-- A disjunction, or an assignment of a value to it. Any word may be assigned to. -/
def assignment? (g : Grammar) : Parse (Option Expr) := do
  let left ← do
    match ← disjunction? g with
    | some e => pure (some e)
    | none =>
      if ← secondIs (·.isSymbol ":=") then
        match (← peek?).bind nameOf? with
        | some n =>
          skip 1
          pure (some (.of (.column [.bare (n.text)])))
        | none => pure none
      else pure none
  match left with
  | none => return none
  | some e =>
    if ← symbol ":=" then
      let notes ← takeNotes
      let value ← need "a value" g.condition
      return some (← makeWith notes (.phrase "$1 := $2") [assigned e, value])
    else return some e

/-- An expression of any kind. One dialect has a sign for the choice between two values. -/
def condition? (g : Grammar) : Parse (Option Expr) := do
  match ← assignment? g with
  | none => return none
  | some c =>
    if g.dialect == .clickhouse && (← symbol "?") then
      let a ← need "a value" g.condition
      let b ← if ← symbol ":" then g.condition else pure none
      return some (← make (.call "IF" "IF" true) (c :: a :: b.toList))
    else return some c

/-- Dialects in which a string may name an expression without `AS`. -/
def stringAliases : Dialect → Bool
  | .mysql | .sqlite | .starrocks | .tsql => true
  | _ => false

/-- The names behind an expression that gives several values. -/
def severalNames (g : Grammar) (e : Expr) : Parse Expr := do
  let names ← separated (anyNameOrPlace? g.dialect)
  let node ← make (.phrase ("$1 AS (" ++ Phrase.literal (", ".intercalate
    (names.map (Name.render g.dialect))) ++ ")")) [e]
  expect ")"
  return node

/-- Clickhouse applies a function to every column that an expression stands for. -/
def applies (d : Dialect) : Parse Bool := do
  return d == .clickhouse && (← atWord "APPLY") && (← secondIs (·.isSymbol "("))

/-- The functions behind an expression that are applied to all of its columns. -/
def applications (g : Grammar) (e : Expr) : Parse Expr :=
  iterate e fun e => do
    unless ← applies g.dialect do return none
    skip 2
    let name ← peek?
    skip 1
    let _ ← symbol ")"
    let shown := Phrase.literal ((name.map Token.shown).getD "")
    return some (← make (.phrase ("$1 APPLY(" ++ shown ++ ")")) [e])

/-- An expression with the name that may follow it. A comment at the expression goes to the name. -/
def named? (g : Grammar) (p : Parse (Option Expr)) : Parse (Option Expr) := do
  let early ← backtrack do
    unless g.dialect == .duckdb && (← secondIs (·.isSymbol ":")) do return none
    match ← name? g.dialect with
    | some n => return if ← symbol ":" then some n else none
    | none => return none
  match ← p with
  | none => return none
  | some e =>
    if let some n := early then return some (← make (.alias n) [e])
    let explicit ← word "AS"
    let before ← takeNotes
    if ← symbol "(" then return some (← severalNames g e)
    let n ← if explicit then anyNameOrPlace? g.dialect else if ← applies g.dialect then pure none
      else do
      match ← nameExcept g.dialect ["LIMIT", "OFFSET"] with
      | some n => pure (some n)
      | none => if stringAliases g.dialect then stringName? else pure none
    match n with
    | none =>
      modify fun c => { c with notes := before }
      return some e
    | some n =>
      let notes := before ++ (← takeNotes)
      if notes.isEmpty then return some (.node (.alias n) e.notes [e.bare])
      else return some (.node (.alias n) notes [e])

/-- An expression that may have a name, with the functions that are applied to its columns. -/
def aliased? (g : Grammar) (p : Parse (Option Expr)) : Parse (Option Expr) := do
  match ← named? g p with
  | none => return none
  | some e => return some (← applications g e)

end QueryFlow.Sql.Parse
