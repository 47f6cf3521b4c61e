import QueryFlow.Sql.Parser.Documents
import QueryFlow.Sql.Parser.Types
import QueryFlow.Sql.Parser.Window
import QueryFlow.Sql.DataType.Spelling
import QueryFlow.Sql.Function.Meaning
import QueryFlow.Sql.Function.Naming
import QueryFlow.Sql.Record

/-!
Reading function calls: the arguments, the functions with a grammar of their own, and the functions
that are another way to write an operator.
-/

namespace QueryFlow.Sql.Parse

open QueryFlow.Sql

/-- A parameter of a function, which may have a type in snowflake. -/
def parameter? (g : Grammar) : Parse (Option (Name × Option DataType)) := do
  match ← name? g.dialect with
  | none => return none
  | some n =>
    let type ← if g.dialect == .snowflake then attempt (g.dataType false) else pure none
    return some (n, type)

/-- Names in front of an arrow, which make what follows a function of them. -/
def parameters? (g : Grammar) : Parse (Option (List (Name × Option DataType) × String)) :=
  backtrack do
    let names ← do
      if ← symbol "(" then
        let names ← separated (parameter? g)
        if ← symbol ")" then pure names else pure []
      else
        pure (← parameter? g).toList
    if names.isEmpty then return none
    if ← symbol "->" then return some (names, "->")
    if ← symbol "=>" then return some (names, "=>")
    return none

def pathFields : List Name → Expr
  | [] => .of .null
  | n :: ns => ns.foldl (fun e m => .of .dot [e, .of (.name m)]) (.of (.name n))

/-- The expression without references to the parameters of the function that it is the body of. A
parameter with a type is cast to it. -/
def bindParameters (parameters : List (Name × Option DataType)) : Expr → Expr
  | .node f notes xs =>
    let rest := xs.attach.map fun ⟨x, _⟩ => bindParameters parameters x
    match f with
    | .column (n :: path) =>
      match parameters.find? (·.1.text == n.text) with
      | none => .node f notes rest
      | some (_, type) =>
        let free := if path.isEmpty then .node (.name n) notes rest
          else (pathFields (n :: path)).annotate notes
        match type with
        | none => free
        | some t => .of (.cast t false) [free]
    | f => .node f notes rest

/-- A query or an expression, with an alias if the flag allows one. -/
def queryOrExpression (g : Grammar) (aliased : Bool) : Parse (Option Expr) := do
  match ← g.query with
  | some q => return some q
  | none =>
    match ← g.condition with
    | none => return none
    | some e =>
      if aliased && (← atWord "AS") then
        skip 1
        let n ← need "a name" anyName?
        return some (← g.setOperations (← make (.alias n) [e]))
      else return some (← g.setOperations e)

/-- The row of a group that an argument is taken from. -/
def havingBound (g : Grammar) (e : Expr) : Parse Expr := do
  unless ← word "HAVING" do return e
  let bound ← oneOf ["MAX", "MIN"]
  let base ← need "a column" g.unary
  make (.phrase ("$1 HAVING " ++ bound.getD "MAX" ++ " $2")) [e, base]

def lambdaWord? (g : Grammar) : Parse (Option Expr) := do
  unless g.dialect == .duckdb && (← atWord "LAMBDA") do return none
  backtrack do
    skip 1
    let names ← separated (name? g.dialect)
    unless ← symbol ":" do return none
    match ← g.condition with
    | some body =>
      let shown := ", ".intercalate (names.map (Name.render g.dialect))
      return some (← make (.phrase ("LAMBDA " ++ Phrase.literal shown ++ " : $1"))
        [bindParameters (names.map (·, none)) body])
    | none => return none

def argument? (g : Grammar) (aliased : Bool) : Parse (Option Expr) := do
  if let some e ← lambdaWord? g then return some e
  match ← parameters? g with
  | some (names, "->") =>
    let body ← need "a value" g.condition
    return some (← make (.lambda (names.map (·.1))) [bindParameters names body])
  | some (names, sign) =>
    let body ← need "a value" g.condition
    return some (← make (.namedArgument ((names.map (·.1)).headD default) sign) [body])
  | none =>
    let e? ← do
      if ← word "DISTINCT" then
        let xs ← commaList g.condition
        pure (some (← make .distinctArguments xs))
      else
        let _ ← word "ALL"
        queryOrExpression g aliased
    match e? with
    | none => return none
    | some e =>
      let e ← nullsRule g.dialect e
      let e ← havingBound g e
      let e ← if ← word "ORDER BY" then do
          let xs ← orderItems g
          make .orderedArgument (e :: xs)
        else pure e
      let e ← nullsRule g.dialect e
      if ← word "LIMIT" then
        let n ← need "a number" g.bitwise
        return some (← make .limitedArgument [e, n])
      else return some e

/-- The arguments of a call up to its closing parenthesis, which stays. -/
def arguments (g : Grammar) (aliased : Bool) : Parse (List Expr) := commaList (argument? g aliased)

/-- Texts of many rows put together: the value, an order, a separator, a limit. -/
def joinedCall (args orders limit : List Expr) : Parse Expr :=
  let form (count : Nat) (hasSeparator : Bool) : Form :=
    .joinedText count hasSeparator (!limit.isEmpty)
  match args with
  | [] => fail "an argument"
  | .node .orderedArgument _ (x :: os) :: r =>
    make (form os.length (!r.isEmpty)) (x :: os ++ r ++ limit)
  | x :: r =>
    match r with
    | .node .orderedArgument _ (sep :: os) :: _ =>
      make (form os.length true) (x :: os ++ sep :: limit)
    | _ => make (form orders.length (!r.isEmpty)) (x :: orders ++ r ++ limit)

/-- A known or unknown function applied to its arguments. -/
def applied (g : Grammar) (t : Token) (written : String) (args : List Expr) : Parse Expr := do
  let u := Text.upper written
  let quoted := match t.lexeme with
    | .quoted _ => true
    | _ => false
  let known := Function.find? g.dialect u
  let name := known.elim u (·.name)
  unless Function.suits g.dialect u args do throw (.arguments name)
  if Function.needsInterval g.dialect u args then throw (.arguments name)
  match Function.meaning? g.dialect u args with
  | some e => settle (Function.withWritten g.dialect written args e)
  | none =>
    match known with
    | some f =>
      if f.name == "GROUP_CONCAT" then joinedCall args [] []
      else if f.name == "STRUCT" then settle (Record.ofArguments g.dialect args)
      else make (.call f.name written true) args
    | none =>
      let name := if quoted then (Name.inQuotes written).render g.dialect
        else if g.dialect.keepsFunctionCase then written else u
      make (.call name written false) args

def isTemporal : DataType → Bool
  | .simple t _ =>
    ["DATE", "DATETIME", "DATETIME2", "TIME", "TIMETZ", "TIMESTAMP", "TIMESTAMPTZ", "TIMESTAMPLTZ",
     "TIMESTAMPNTZ", "SMALLDATETIME", "DATETIME64", "DATE32"].contains t
  | _ => false

def literalText? : Parse (Option String) := do
  match ← peek? with
  | some ⟨.string s, _⟩ =>
    skip 1
    return some s
  | _ => return none

def stringArgument? : Parse (Option Expr) := do
  match ← literalText? with
  | some s => return some (← make (.string s))
  | none => return none

/-- A text read as a date or a moment in a format, which may have a zone behind it. -/
def readingCast (d : Dialect) (safe : Bool) (x : Expr) (t : DataType) (format : String)
    (zone : Option Expr) : Parse Expr := do
  let isDate := match t with
    | .simple "DATE" _ => true
    | _ => false
  if d == .bigquery && safe then
    let shown := Literal.quote d (TimeFormat.preferredCast format)
    let type := if isDate then "DATE" else "TIMESTAMP"
    return ← make (.phrase ("SAFE_CAST($1 AS " ++ type ++ " FORMAT " ++ Phrase.literal shown
      ++ ")")) [x]
  let shown := Expr.of (.string (TimeFormat.normalizeCast d format))
  match zone with
  | some z =>
    if d == .bigquery && !isDate then
      return ← make (.phrase "PARSE_TIMESTAMP($2, $1, $3)") [x, shown, z]
  | none => pure ()
  let name := if isDate then "STR_TO_DATE" else "STR_TO_TIME"
  make (.call name name true) [x, shown]

/-- What a cast says behind the type: the value that stands for one without a form in the type, and
the format. The answer has the pattern for it and the operands from the second one on. -/
def castTail (g : Grammar) (t : DataType) (default? : Option Expr) (format? : Option Expr) :
    Parse (String × List Expr) := do
  let fields ← do
    if ← words ["RENAME", "FIELDS"] then pure " RENAME FIELDS"
    else if ← words ["ADD", "FIELDS"] then pure " ADD FIELDS"
    else pure ""
  let base := Phrase.literal (t.renderCast g.dialect)
    ++ (if default?.isSome then " DEFAULT $2 ON CONVERSION ERROR" else "")
  let place := if default?.isSome then "$3" else "$2"
  return (base ++ (if format?.isSome then " FORMAT " ++ place else "") ++ fields,
    default?.toList ++ format?.toList)

def castFormat? (g : Grammar) : Parse (Option (String × Expr × Option Expr)) := do
  unless (← word "FORMAT") || (← symbol ",") do return none
  match ← peek? with
  | some ⟨.string s, _⟩ =>
    skip 1
    let e ← make (.string s)
    if ← words ["AT", "TIME", "ZONE"] then
      let z ← need "a zone" g.unary
      return some (s, ← make (.binary .atTimeZone) [e, z], some z)
    else return some (s, e, none)
  | _ => fail "a format"

/-- `CAST(x AS type)` behind its opening parenthesis. -/
def castBody (g : Grammar) (safe : Bool) : Parse Expr := do
  let x ← need "a value" g.condition
  if !(← atWord "AS") && (← symbol ",") then
    -- the type is given as a text
    let t ← need "a type" stringArgument?
    let name := if g.dialect == .clickhouse then "CAST" else "CAST_TO_STR_TYPE"
    return ← make (.call name name true) [x, t]
  expectWord "AS"
  let t? ← g.dataType false
  let default? ← do
    if ← word "DEFAULT" then
      let e ← need "a value" g.bitwise
      let _ ← words ["ON", "CONVERSION", "ERROR"]
      pure (some e)
    else pure none
  let format? ← castFormat? g
  match t?, format? with
  | none, none => fail "a type"
  | _, _ =>
    let t := t?.getD (.simple "UNKNOWN" [])
    match isTemporal t, format? with
    | true, some (format, _, zone) => readingCast g.dialect safe x t format zone
    | _, _ =>
      let isText := match t with
        | .simple "CHAR" _ => true
        | _ => false
      let t ← if isText && (← word "CHARACTER SET") then do
          pure (DataType.characterSet (← need "a set of characters" anyName?).text)
        else pure t
      let (pattern, more) ← castTail g t default? (format?.map fun f => f.2.1)
      if pattern == Phrase.literal (t.renderCast g.dialect) then make (.cast t safe) [x]
      else make (.phrase (DataType.castWord g.dialect safe ++ "($1 AS " ++ pattern
        ++ ")")) (x :: more)

/-- `CONVERT(x, type)` or `CONVERT(x USING set)` behind its opening parenthesis. Two dialects name
the type first. -/
def convertBody (g : Grammar) (safe : Bool) : Parse Expr := do
  match g.dialect with
  | .tsql =>
    let t ← need "a type" (g.dataType false)
    expect ","
    let xs ← commaList (argument? g false)
    let name := if safe then "TRY_CONVERT" else "CONVERT"
    make (.phrase (name ++ "(" ++ Phrase.literal (t.render g.dialect) ++ ", @1)")) xs
  | .redshift =>
    let t ← need "a type" (g.dataType false)
    expect ","
    let x ← need "a value" g.bitwise
    make (.cast t safe) [x]
  | _ =>
    let x ← need "a value" g.bitwise
    if ← word "USING" then
      let n ← need "a set of characters" anyName?
      make (.cast (.characterSet n.text) safe) [x]
    else
      expect ","
      let t ← need "a type" (g.dataType false)
      make (.cast t safe) [x]

/-- `CHAR(codes USING set)` behind its opening parenthesis. -/
def charactersBody (g : Grammar) (written : String) : Parse Expr := do
  let xs ← commaList g.condition
  if xs.isEmpty then throw (.arguments "CHR")
  let name :=
    if g.dialect.likeMysql || g.dialect == .tsql || g.dialect == .sqlite then "CHAR" else "CHR"
  if ← word "USING" then
    let n ← need "a set of characters" anyName?
    make (.phrase (name ++ "(@1 USING " ++ Phrase.literal n.text ++ ")")) xs
  else make (.call "CHR" written true) xs

/-- `quantile(level)(x)` behind its opening parenthesis; the last parenthesis stays. -/
def quantileBody (g : Grammar) (written : String) : Parse Expr := do
  let first ← need "a value" (argument? g false)
  let parametric := (← atSymbol ")") && (← secondIs (·.isSymbol "("))
  if parametric then
    skip 2
    let x ← need "a value" (argument? g false)
    make (.phrase (Phrase.literal written ++ "($2)($1)")) [x, first]
  else make (.phrase (Phrase.literal written ++ "(0.5)($1)")) [first]

/-- `DECODE(x, a, b)` behind its opening parenthesis: with two arguments a text in a set of
characters, otherwise a choice by cases. -/
def decodeBody (g : Grammar) : Parse Expr := do
  match ← commaList g.condition with
  | [] | [_] => throw (.arguments "DECODE")
  | [x, charset] =>
    if g.dialect == .presto || g.dialect == .trino then make (.phrase "FROM_UTF8($1)") [x]
    else make (.call "DECODE" "DECODE" true) [x, charset]
  | xs => make (.call "DECODE" "DECODE" true) xs

/-- `EXTRACT(part FROM x)` behind its opening parenthesis. -/
def extractBody (g : Grammar) (nested : Parse (Option Expr)) : Parse Expr := do
  if g.dialect == .clickhouse then
    -- without `FROM`, the function takes the part of a text that matches a pattern
    if let some xs ← backtrack do
      let text ← need "a value" g.bitwise
      if ← atWord "FROM" then return none
      let _ ← symbol ","
      let pattern ← g.bitwise
      return some (text :: pattern.toList)
    then return ← make (.call "extract" "extract" false) xs
  let part ← do
    match ← nested with
    | some e => pure e
    | none =>
      match ← peek? with
      | some ⟨.string s, _⟩ =>
        skip 1
        make (.string s)
      | _ =>
        let w ← need "a part of a date" anyWord?
        make (.words w)
  unless (← word "FROM") || (← symbol ",") do fail "FROM"
  let x ← need "a value" g.bitwise
  make .extract [part, x]

/-- `DATE_PART(part, x)` behind its opening parenthesis. -/
def datePartBody (g : Grammar) : Parse Expr := do
  let part ← need "a part of a date" g.unary
  let _ ← symbol ","
  let x ← need "a value" g.bitwise
  let part := match part.form with
    | .column _ | .string _ | .number _ => .node (.words (Text.upper part.nameText)) [] []
    | _ => part
  make .extract [part, x]

/-- `DATEPART(part, x)` behind its opening parenthesis, where a short word stands for a full one. -/
def wordedPartBody (g : Grammar) : Parse Expr := do
  let part ← need "a part of a date" do
    match (← peek?).map Token.lexeme with
    | some (.word s u) =>
      if isFreeWord g.dialect u then
        skip 1
        return some (DatePart.full g.dialect s)
      else return none
    | some (.quoted s) =>
      skip 1
      return some (DatePart.full g.dialect s)
    | _ => return none
  expect ","
  let x ← need "a value" g.bitwise
  make .extract [.of (.words part), x]

/-- What behaves like an object is in its text: names with their values. -/
def objectBody (g : Grammar) (standard : String) : Parse Expr := do
  let name := Function.spelling g.dialect standard standard 1
  let pair : Parse (Option Expr) := do
    let _ ← word "KEY"
    match ← g.unary with
    | none => return none
    | some k =>
      unless (← symbol ":") || (← symbol ",") || (← word "IS") do pure ()
      let _ ← word "VALUE"
      let v ← need "a value" g.bitwise
      let _ ← words ["FORMAT", "JSON"]
      let sep := if g.dialect.likeMysql || g.dialect == .snowflake || g.dialect == .bigquery
          || g.dialect == .sqlite || g.dialect == .duckdb then ", " else ": "
      return some (← make (.phrase ("$1" ++ sep ++ "$2")) [k, v])
  let pairs ← do
    if ← symbol "*" then pure [Expr.of .star] else commaList pair
  let nulls ← do
    if ← words ["NULL", "ON", "NULL"] then pure " NULL ON NULL"
    else if ← words ["ABSENT", "ON", "NULL"] then pure " ABSENT ON NULL"
    else pure ""
  let unique ← do
    if ← words ["WITH", "UNIQUE"] then pure " WITH UNIQUE KEYS"
    else if ← words ["WITHOUT", "UNIQUE"] then pure " WITHOUT UNIQUE KEYS"
    else pure ""
  let _ ← word "KEYS"
  let returned ← do
    if ← word "RETURNING" then
      let t ← need "a type" (g.dataType false)
      let json ← words ["FORMAT", "JSON"]
      pure (" RETURNING " ++ t.render g.dialect ++ if json then " FORMAT JSON" else "")
    else pure ""
  make (.phrase (name ++ "(@1" ++ Phrase.literal (nulls ++ unique ++ returned) ++ ")")) pairs

/-- `NORMALIZE(x, form)` behind its opening parenthesis. -/
def normalizeBody (g : Grammar) : Parse Expr := do
  let x ← need "a value" g.bitwise
  let form ← if ← symbol "," then anyName? else pure none
  match form with
  | some n => make (.call "NORMALIZE" "NORMALIZE" true) [x, .of (.words n.text)]
  | none => make (.call "NORMALIZE" "NORMALIZE" true) [x]

/-- `MATCH(columns) AGAINST (text)` behind its opening parenthesis; the last parenthesis stays. Some
dialects look for the text in each of the columns. -/
def matchBody (g : Grammar) : Parse Expr := do
  let columns ← commaList g.unary
  if (← atSymbol ")") && (← secondIs (·.isWord "AGAINST")) then
    skip 2
    expect "("
  let x ← need "a text" stringArgument?
  let manner ← do
    if ← words ["IN", "NATURAL", "LANGUAGE", "MODE"] then
      if ← words ["WITH", "QUERY", "EXPANSION"] then
        pure " IN NATURAL LANGUAGE MODE WITH QUERY EXPANSION"
      else pure " IN NATURAL LANGUAGE MODE"
    else if ← words ["IN", "BOOLEAN", "MODE"] then pure " IN BOOLEAN MODE"
    else if ← words ["WITH", "QUERY", "EXPANSION"] then pure " WITH QUERY EXPANSION"
    else pure ""
  if g.dialect.likePostgres then
    let tests := (List.range columns.length).map fun i => "$" ++ toString (i + 2) ++ " @@@@ $1"
    let whole := " OR ".intercalate tests
    make (.phrase (if columns.length > 1 then "(" ++ whole ++ ")" else whole)) (x :: columns)
  else make (.phrase ("MATCH(@2) AGAINST($1" ++ manner ++ ")")) (x :: columns)

/-- `SUBSTRING(x FROM a FOR b)` behind its opening parenthesis. -/
def substringBody (g : Grammar) : Parse Expr := do
  let args ← commaList g.bitwise
  let (start, length) ← iterate ((none, none) : Option Expr × Option Expr) fun (s, l) => do
    if ← word "FROM" then
      return some (some (← need "a value" g.bitwise), l)
    else if ← word "FOR" then
      let s := match s with
        | some s => some s
        | none => some (.of (.number "1"))
      return some (s, some (← need "a value" g.bitwise))
    else return none
  let all := args ++ start.toList ++ length.toList
  if all.isEmpty || all.length > 4 then throw (.arguments "SUBSTRING")
  make .substring all

/-- `TRIM(side characters FROM x)` behind its opening parenthesis. -/
def trimBody (g : Grammar) : Parse Expr := do
  let side ← oneOf ["BOTH", "LEADING", "TRAILING"]
  let first ← g.bitwise
  let swapped ← word "FROM"
  let more ← if swapped then pure true else symbol ","
  if more then
    let second ← need "a value" g.bitwise
    match first with
    | some x =>
      make (.trim side true) (if swapped then [second, x] else [x, second])
    | none => make (.trim side false) [second]
  else
    match first with
    | some x => make (.trim side false) [x]
    | none => fail "a value"

/-- `POSITION(x IN y)` behind its opening parenthesis. -/
def positionBody (g : Grammar) : Parse Expr := do
  let args ← commaList g.bitwise
  if ← word "IN" then
    let text ← need "a value" g.bitwise
    make .position (text :: args.take 1)
  else
    match args with
    | first :: second :: more =>
      let (text, needle) := if g.dialect == .clickhouse then (first, second) else (second, first)
      make .position (text :: needle :: more.take 1)
    | _ => throw (.arguments "POSITION")

/-- `OVERLAY(x PLACING y FROM a FOR b)` behind its opening parenthesis. -/
def overlayBody (g : Grammar) : Parse Expr := do
  let x ← need "a value" g.bitwise
  unless (← word "PLACING") || (← symbol ",") do fail "PLACING"
  let y ← need "a value" g.bitwise
  unless (← word "FROM") || (← symbol ",") do fail "FROM"
  let a ← need "a value" g.bitwise
  if (← word "FOR") || (← symbol ",") then
    let b ← need "a value" g.bitwise
    make (.overlay true) [x, y, a, b]
  else make (.overlay false) [x, y, a]

/-- What happens when the texts of a group are too long together. -/
def overflow? : Parse (Option String) := do
  unless ← words ["ON", "OVERFLOW"] do return none
  if ← word "ERROR" then return some " ON OVERFLOW ERROR"
  let _ ← word "TRUNCATE"
  let filler ← literalText?
  let counted ← words ["WITH", "COUNT"]
  let uncounted ← if counted then pure false else words ["WITHOUT", "COUNT"]
  let shown := (filler.map fun s => "'" ++ "''".intercalate (s.splitOn "'") ++ "'").getD ""
  return some (" ON OVERFLOW TRUNCATE " ++ shown
    ++ if uncounted then " WITHOUT COUNT" else " WITH COUNT")

/-- `STRING_AGG(x, separator ORDER BY y LIMIT n)` behind its opening parenthesis. -/
def stringAggBody (g : Grammar) : Parse Expr := do
  let first ← do
    if ← word "DISTINCT" then
      let x ← need "a value" g.condition
      let d ← make .distinctArguments [x]
      let _ ← symbol ","
      let r ← commaList g.condition
      pure (d :: r)
    else commaList g.condition
  let tooLong ← overflow?
  let direct ← atSymbol ")"
  if direct && first.length > 3 then throw (.arguments "GROUP_CONCAT")
  let orders ← if ← word "ORDER BY" then orderItems g else pure []
  let limit ← if ← word "LIMIT" then g.bitwise else pure none
  let inner ← joinedCall (if direct then first else first.take 2) orders limit.toList
  let grouped := (← atSymbol ")") &&
    (((← rest).drop 1).take 2).filterMap Token.word? == ["WITHIN", "GROUP"]
  if grouped && orders.isEmpty then
    skip 3
    expect "("
    let _ ← word "ORDER BY"
    let os ← orderItems g
    let separator := (first.drop 1).take 1
    let separator := match g.dialect, tooLong with
      | .trino, some text =>
        [Function.phrase ("$1" ++ Phrase.literal text) [separator.headD (.of (.string ","))]]
      | _, _ => separator
    joinedCall (first.take 1 ++ separator) os []
  else return inner

/-- `GROUP_CONCAT(x ORDER BY y SEPARATOR s)` behind its opening parenthesis. -/
def groupConcatBody (g : Grammar) : Parse Expr := do
  let first ← do
    if ← word "DISTINCT" then
      let xs ← commaList g.condition
      pure [← make .distinctArguments xs]
    else commaList g.condition
  let orders ← if ← word "ORDER BY" then orderItems g else pure []
  let separator ← if ← word "SEPARATOR" then do
      let s ← need "a separator" g.unary
      pure [s]
    else pure []
  match first with
  | [] => fail "an argument"
  | [x] => joinedCall (x :: separator) orders []
  | xs => joinedCall (Expr.of (.call "CONCAT" "CONCAT" true) xs :: separator) orders []

/-- `groupConcat(separator)(x)` or `groupConcat(x)` behind its opening parenthesis. -/
def groupedTextBody (g : Grammar) : Parse Expr := do
  let first ← commaList (argument? g false)
  let parametric := (← atSymbol ")") && (← secondIs (·.isSymbol "("))
  if parametric then
    skip 2
    let xs ← commaList (argument? g false)
    joinedCall (xs.take 1 ++ first.take 1) [] []
  else joinedCall (first.take 1) [] []

/-- Conditions connected by a function behind its opening parenthesis. Conditions that are connected
themselves get parentheses. -/
def connectedBody (g : Grammar) (op : BinaryOp) : Parse Expr := do
  let shielded (e : Expr) : Expr :=
    match e.form with
    | .binary .and | .binary .or => .of .paren [e]
    | _ => e
  match ← commaList (argument? g false) with
  | [] => fail "a condition"
  | [x] => return x
  | x :: xs => return xs.foldl (fun a b => .of (.binary op) [a, shielded b]) (shielded x)

/-- The name of the column that a new row has a value for, behind its opening parenthesis. It is no
reference to a column of what is read. -/
def valuesBody (g : Grammar) : Parse Expr := do
  let n ← need "a name" (name? g.dialect)
  make (.call "VALUES" "VALUES" false) [.of (.name n)]

/-- `CEIL(x, digits TO unit)` behind its opening parenthesis; further arguments are not kept. -/
def roundedBody (g : Grammar) (name : String) : Parse Expr := do
  let xs ← commaList (argument? g false)
  let unit ← if ← word "TO" then anyWord? else pure none
  match unit with
  | none =>
    match g.dialect, xs with
    | .duckdb, [x, places] => settle (Function.roundedTo name x places)
    | _, _ => make (.call name name true) (xs.take 2)
  | some u => make (.phrase (name ++ "(@1 TO " ++ Phrase.literal u ++ ")")) (xs.take 2)

/-- `XMLELEMENT(NAME n, contents)` behind its opening parenthesis. -/
def elementBody (g : Grammar) : Parse Expr := do
  let (opening, first) ← do
    if ← word "EVALNAME" then pure ("EVALNAME $1", ← need "a name" g.bitwise)
    else
      let _ ← word "NAME"
      pure ("NAME $1", Expr.of (.name (← name g.dialect)))
  let more ← if ← symbol "," then commaList g.bitwise else pure []
  make (.phrase ("XMLELEMENT(" ++ opening
    ++ (if more.isEmpty then ")" else ", @2)"))) (first :: more)

/-- What a function gives on some occasion: a word, or a value behind `DEFAULT`. -/
def occasion? (g : Grammar) (on : String) : Parse (Option Expr) := do
  for w in ["ERROR", "NULL", "TRUE", "FALSE", "EMPTY"] do
    if ← words [w, "ON", on] then return some (.of (.words (w ++ " ON " ++ on)))
  attempt do
    unless ← word "DEFAULT" do return none
    let x ← need "a value" g.bitwise
    unless ← words ["ON", on] do return none
    return some (.of (.phrase ("DEFAULT $1 ON " ++ on)) [x])

/-- `JSON_VALUE(x, path RETURNING type ...)` behind its opening parenthesis. -/
def documentValueBody (g : Grammar) : Parse Expr := do
  let x ← need "a document" g.bitwise
  let _ ← symbol ","
  let path ← g.bitwise
  let path := (path.map (Function.pathArgument g.dialect)).getD (.of (.words ""))
  let returned ← if ← word "RETURNING" then do
      let t ← need "a type" (g.dataType false)
      pure (" RETURNING " ++ t.render g.dialect)
    else pure ""
  let empty ← occasion? g "EMPTY"
  let error ← occasion? g "ERROR"
  let null ← occasion? g "NULL"
  let occasions := empty.toList ++ error.toList ++ null.toList
  let marks := (List.range occasions.length).map fun i => " $" ++ toString (i + 3)
  make (.phrase ("JSON_VALUE($1, $2" ++ Phrase.literal returned ++ String.join marks ++ ")"))
    (x :: path :: occasions)

/-- A value, with the words for a value that is a document already. -/
def documentOperand? (g : Grammar) : Parse (Option Expr) := do
  match ← g.bitwise with
  | none => return none
  | some x =>
    if ← words ["FORMAT", "JSON"] then return some (← make (.phrase "$1 FORMAT JSON") [x])
    else return some x

/-- `JSON_EXISTS(x, path PASSING ...)` behind its opening parenthesis. -/
def documentExistsBody (g : Grammar) : Parse Expr := do
  let x ← need "a document" (documentOperand? g)
  let _ ← symbol ","
  let path := Function.pathArgument g.dialect (← need "a path" g.bitwise)
  let passing ← if ← word "PASSING" then commaList do
      match ← g.bitwise with
      | none => return none
      | some e =>
        if ← word "AS" then
          let n ← need "a name" anyName?
          return some (← make (.alias n) [e])
        else return some e
    else pure []
  let error ← occasion? g "ERROR"
  let empty ← occasion? g "EMPTY"
  let null ← occasion? g "NULL"
  let given := if passing.isEmpty then [] else [.of (.phrase " PASSING @1") passing]
  let parts := given ++ (error.toList ++ empty.toList ++ null.toList).map fun e =>
    .of (.phrase " $1") [e]
  let marks := (List.range parts.length).map fun i => "$" ++ toString (i + 3)
  make (.phrase ("JSON_EXISTS($1, $2" ++ String.join marks ++ ")")) (x :: path :: parts)

def documentListBody (g : Grammar) (name : String) : Parse Expr := do
  let xs ← commaList (documentOperand? g)
  let orders ← if ← word "ORDER BY" then orderItems g else pure []
  let nulls ← do
    if ← words ["NULL", "ON", "NULL"] then pure " NULL ON NULL"
    else if ← words ["ABSENT", "ON", "NULL"] then pure " ABSENT ON NULL"
    else pure ""
  let returned ← if ← word "RETURNING" then do
      let t ← need "a type" (g.dataType false)
      pure (" RETURNING " ++ t.render g.dialect)
    else pure ""
  let strict := if ← word "STRICT" then " STRICT" else ""
  let whole := match orders, xs with
    | [], xs => xs
    | os, x :: r => .of .orderedArgument (x :: os) :: r
    | _, [] => []
  let tail := nulls ++ returned ++ strict
  match tail.isEmpty, whole.reverse with
  | false, last :: r =>
    make (.call name name true) (r.reverse ++ [.of (.phrase ("$1" ++ Phrase.literal tail)) [last]])
  | _, _ => make (.call name name true) whole

def specialBody? (g : Grammar) (nested : Parse (Option Expr)) (written : String) :
    Option (Parse Expr) :=
  match Text.upper written with
  | "CAST" => some (castBody g false)
  | "TRY_CAST" | "SAFE_CAST" => some (castBody g true)
  | "CONVERT" => if g.dialect == .oracle then none else some (convertBody g false)
  | "TRY_CONVERT" => some (convertBody g true)
  | "CHAR" | "CHR" => some (charactersBody g written)
  | "QUANTILE" => if g.dialect == .clickhouse then some (quantileBody g written) else none
  | "DECODE" => if g.dialect == .duckdb then none else some (decodeBody g)
  | "EXTRACT" => some (extractBody g nested)
  | "DATEPART" => if g.dialect == .tsql then some (wordedPartBody g) else none
  | "DATE_PART" => if g.dialect.likePostgres then some (datePartBody g) else none
  | "JSON_OBJECT" => some (objectBody g "JSON_OBJECT")
  | "JSON_OBJECTAGG" => some (objectBody g "JSON_OBJECTAGG")
  | "OBJECT_CONSTRUCT_KEEP_NULL" =>
    if g.dialect == .snowflake then some (objectBody g "JSON_OBJECT") else none
  | "CEIL" => some (roundedBody g "CEIL")
  | "FLOOR" => some (roundedBody g "FLOOR")
  | "XMLELEMENT" => some (elementBody g)
  | "JSON_TABLE" => some (rowsOfJson g)
  | "OPENJSON" => some (openedJson g)
  | "XMLTABLE" => some (rowsOfElements g)
  | "AND" => if g.dialect == .clickhouse then some (connectedBody g .and) else none
  | "OR" => if g.dialect == .clickhouse then some (connectedBody g .or) else none
  | "GROUPCONCAT" => if g.dialect == .clickhouse then some (groupedTextBody g) else none
  | "VALUES" => if g.dialect.likeMysql then some (valuesBody g) else none
  | "MATCH" => if g.dialect == .clickhouse then none else some (matchBody g)
  | "NORMALIZE" => some (normalizeBody g)
  | "SUBSTRING" => some (substringBody g)
  | "SUBSTR" => if g.dialect.likeMysql then some (substringBody g) else none
  | "JSON_VALUE" =>
    if g.dialect.likeMysql || g.dialect == .trino then some (documentValueBody g) else none
  | "JSON_EXISTS" => if g.dialect == .oracle then some (documentExistsBody g) else none
  | "JSON_ARRAY" => if g.dialect == .oracle then some (documentListBody g "JSON_ARRAY") else none
  | "JSON_ARRAYAGG" =>
    if g.dialect == .oracle || g.dialect == .tsql then some (documentListBody g "JSON_ARRAYAGG")
    else none
  | "TRIM" =>
    if g.dialect == .presto || g.dialect == .bigquery then none else some (trimBody g)
  | "POSITION" => some (positionBody g)
  | "OVERLAY" => some (overlayBody g)
  | "STRING_AGG" => some (stringAggBody g)
  | "LISTAGG" =>
    match g.dialect with
    | .duckdb | .snowflake | .trino => some (stringAggBody g)
    | _ => none
  | "GROUP_CONCAT" => if g.dialect.likeMysql then some (groupConcatBody g) else none
  | _ => none

/-- A predicate over the rows of a query: `EXISTS`, `ALL`, `SOME`. -/
def predicateForm? (u : String) : Option Form :=
  match u with
  | "EXISTS" => some .exists
  | "ALL" => some .all
  | "ANY" | "SOME" => some .any
  | _ => none

/-- The arguments of a call that stand in a second pair of parentheses. -/
def secondArguments (g : Grammar) (name : String) (e : Expr) : Parse Expr := do
  unless g.dialect == .clickhouse do return e
  match e with
  | .node (.call _ _ false) notes first =>
    unless Function.isGroupName name.length name do return e
    unless ← symbol "(" do return e
    let more ← arguments g false
    let gaps (start : Nat) (count : Nat) : String :=
      ", ".intercalate ((List.range count).map fun i => "$" ++ toString (start + i + 1))
    let node := Expr.node
      (.phrase (Phrase.literal name ++ "(" ++ gaps 0 first.length ++ ")("
        ++ gaps first.length more.length ++ ")")) notes (first ++ more)
    expect ")"
    return node
  | e => return e

/-- A call whose name and opening parenthesis are next. `plain` keeps the name as written and knows
no function; `nested` reads a call inside a call. -/
def callWith (g : Grammar) (nested : Parse (Option Expr)) (plain : Bool) : Parse Expr := do
  match ← peek? with
  | none => fail "a function"
  | some t =>
    let notes := t.notes
    let written := t.shown
    let u := Text.upper written
    let wasWord := t.word?.isSome
    skip 2
    let predicate ← do
      if wasWord then
        match predicateForm? u with
        | some f =>
          match ← g.query with
          | some q => pure (some (Expr.node f notes [q]))
          | none => pure none
        | none => pure none
      else pure none
    match predicate with
    | some e =>
      expect ")"
      return e
    | none =>
      let e ← do
        if plain then
          let xs ← arguments g true
          make (.call written written false) xs
        else
          match (if wasWord then specialBody? g nested written else none) with
          | some body => body
          | none =>
            let known? := Function.find? g.dialect u
            let xs ← arguments g (known?.all (·.name == "STRUCT"))
            applied g t written xs
      let e := e.annotate notes
      expect ")"
      let e ← settle e
      let e ← secondArguments g written e
      windowed g e

def nestedCall? (g : Grammar) : Parse (Option Expr) := do
  match ← rest with
  | t :: p :: _ =>
    if p.isSymbol "(" && isCallable g.dialect t then
      return some (← callWith g (return none) false)
    else return none
  | _ => return none

/-- A call whose name and opening parenthesis are next. -/
def call (g : Grammar) (plain : Bool) : Parse Expr := callWith g (nestedCall? g) plain

end QueryFlow.Sql.Parse
