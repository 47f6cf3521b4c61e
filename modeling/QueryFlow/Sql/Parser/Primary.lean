import QueryFlow.Sql.Parser.Calls
import QueryFlow.Sql.Record

/-!
Reading the operands of expressions: literals, columns, calls, what stands in parentheses or
brackets, and the points, casts and brackets behind them. What stands in parentheses is read by the
grammar that is passed in.
-/

namespace QueryFlow.Sql.Parse

open QueryFlow.Sql

/-- The word for columns that a star leaves out. -/
def exceptWord : Dialect → String
  | .duckdb | .redshift | .snowflake => "EXCLUDE"
  | _ => "EXCEPT"

/-- One thing that a star leaves out or changes, when one of the words says so. -/
def starChange? (g : Grammar) (ws : List String) (shown : String) : Parse (Option Expr) := do
  match ← oneOf ws with
  | none => return none
  | some _ =>
    if ← symbol "(" then
      let xs ← commaList g.expression
      expect ")"
      return some (.of (.groupingItem shown) xs)
    else
      match ← g.condition with
      | none => return none
      | some e =>
        if ← word "AS" then
          let n ← need "a name" anyName?
          return some (.of (.groupingItem shown) [.of (.alias n) [e]])
        else return some (.of (.groupingItem shown) [e])

def starChanges (g : Grammar) : Parse (List Expr) := do
  let left ← starChange? g ["EXCEPT", "EXCLUDE"] (exceptWord g.dialect)
  let replaced ← starChange? g ["REPLACE"] "REPLACE"
  let renamed ← starChange? g ["RENAME"] "RENAME"
  return left.toList ++ replaced.toList ++ renamed.toList

/-- Words of mysql that say in which set of characters the literal behind them is written. -/
def characterSets : List String :=
  ["_ARMSCII8", "_ASCII", "_BIG5", "_BINARY", "_CP1250", "_CP1251", "_CP1256", "_CP1257", "_CP850",
   "_CP852", "_CP866", "_CP932", "_DEC8", "_EUCJPMS", "_EUCKR", "_GB18030", "_GB2312", "_GBK",
   "_GEOSTD8", "_GREEK", "_HEBREW", "_HP8", "_KEYBCS2", "_KOI8R", "_KOI8U", "_LATIN1", "_LATIN2",
   "_LATIN5", "_LATIN7", "_MACCE", "_MACROMAN", "_SJIS", "_SWE7", "_TIS620", "_UCS2", "_UJIS",
   "_UTF16", "_UTF16LE", "_UTF32", "_UTF8", "_UTF8MB3", "_UTF8MB4"]

/-- A literal, a null, a truth value or a star. -/
def literal? (g : Grammar) : Parse (Option Expr) := do
  match ← peek? with
  | none => return none
  | some t =>
    match t.lexeme with
    | .string s =>
      skip 1
      let first ← make (.string s)
      let parts ← iterate [first] fun parts => do
        match ← peek? with
        | some ⟨.string s, _⟩ =>
          skip 1
          return some ((← make (.string s)) :: parts)
        | _ => return none
      match parts with
      | [x] => return some x
      | xs => return some (← make (.call "CONCAT" "CONCAT" true) xs.reverse)
    | .number s =>
      skip 1
      return some (← make (.number s))
    | .marked mark s =>
      skip 1
      if mark == .unicode && (← word "UESCAPE") then
        let literal ← make (.marked mark s)
        match ← peek? with
        | some ⟨.string c, _⟩ =>
          skip 1
          return some (← make (.phrase "$1 UESCAPE $2") [literal, .of (.string c)])
        | _ => return some literal
      return some (← make (.marked mark s))
    | .word _ "NULL" =>
      skip 1
      return some (← make .null)
    | .word _ "TRUE" =>
      skip 1
      return some (← make (.boolean true))
    | .word _ "FALSE" =>
      skip 1
      return some (← make (.boolean false))
    | .word s u =>
      if g.dialect.likeMysql && characterSets.contains u then
        match (← rest).drop 1 with
        | ⟨.string v, _⟩ :: _ =>
          skip 2
          return some (← make (.phrase (s ++ " $1")) [.of (.string v)])
        | ⟨.marked m v, _⟩ :: _ =>
          skip 2
          return some (← make (.phrase (s ++ " $1")) [.of (.marked m v)])
        | _ => return none
      else return none
    | .symbol "*" =>
      skip 1
      let star ← make .star
      let changes ← starChanges g
      return some (.node .star star.notes changes)
    | .symbol "." =>
      match (← rest).drop 1 with
      | ⟨.number s, _⟩ :: _ =>
        skip 2
        return some (← make (.number ("0." ++ s)))
      | _ => return none
    | _ => return none

/-- A node that may be followed by a window although it is no call. -/
def isCallForm : Form → Bool
  | .call .. | .joinedText .. => true
  | _ => false

/-- What stands in parentheses: a query, a row of values, or one value. -/
def parenthesized? (g : Grammar) : Parse (Option Expr) := do
  unless ← symbol "(" do return none
  let opening ← takeNotes
  let (items, trailing) ← do
    match ← g.query with
    | some q => pure ([q], false)
    | none => commaListFlag g.expression
  let e ← do
    match items with
    | [] => make .tuple []
    | [x] =>
      if trailing then make .tuple [x]
      else
        let x ← if x.isQuery then g.clauses x else pure x
        match x.form with
        | .select .. | .setOperation _ => make (.subquery none) [x]
        | .values _ =>
          let whole ← g.clauses (← g.setOperations x)
          make (.subquery none) [whole]
        | .subquery none =>
          let whole ← g.setOperations x
          let whole ← g.clauses whole
          make (.subquery none) [whole]
        | _ => make .paren [x]
    | xs => make .tuple xs
  let e := e.annotate opening
  expect ")"
  let e ← settle e
  match e with
  | .node .paren _ [x] => if isCallForm x.form then return some (← windowed g e) else return some e
  | _ => return some e

def parameterPart? : Parse (Option Expr) := do
  match ← peek? with
  | some ⟨.word s _, _⟩ =>
    skip 1
    return some (.of (.words s))
  | some ⟨.quoted s, _⟩ =>
    skip 1
    return some (.of (.name (.inQuotes s)))
  | some ⟨.number s, _⟩ =>
    skip 1
    return some (.of (.number s))
  | some ⟨.string s, _⟩ =>
    skip 1
    return some (.of (.string s))
  | _ => return none

/-- A parameter with or without braces, which may have two parts. -/
def braceParameter? : Parse (Option Expr) := backtrack do
  skip 1
  let _ ← symbol "\x7b"
  match ← parameterPart? with
  | none => return none
  | some x =>
    let more ← if ← symbol ":" then parameterPart? else pure none
    let _ ← symbol "\x7d"
    match more with
    | some y => return some (← make .parameter [.of (.phrase "$1:$2") [x, y]])
    | none => return some (← make .parameter [x])

def placeholder? (d : Dialect) (types : Parse (Option DataType)) : Parse (Option Expr) := do
  match ← peek? with
  | none => return none
  | some t =>
    match t.lexeme with
    | .symbol "?" =>
      skip 1
      return some (← make (.placeholder none))
    | .symbol ":" =>
      match (← rest).drop 1 with
      | ⟨.number s, _⟩ :: _ =>
        skip 2
        return some (← make (.placeholder (some s)))
      | t :: _ =>
        if isName d t then
          skip 2
          return some (← make (.placeholder ((nameOf? t).map (·.text))))
        else return none
      | [] => return none
    | .symbol "@@" =>
      match (← rest).drop 1 with
      | ⟨.word s _, _⟩ :: _ =>
        unless d.likeMysql || d == .tsql do return none
        skip 2
        return some (← make (.phrase ("@@@@" ++ Phrase.literal s)))
      | _ => return none
    | .symbol "\x7b" =>
      unless d == .clickhouse do return none
      backtrack do
        skip 1
        match ← name? d with
        | none => return none
        | some n =>
          unless ← symbol ":" do return none
          let kind ← do
            if ← word "IDENTIFIER" then pure "Identifier"
            else match ← types with
              | some t => pure (t.render d)
              | none => pure ""
          unless ← symbol "\x7d" do return none
          return some (← make (.phrase (Phrase.literal
            ("\x7b" ++ n.text ++ ": " ++ kind ++ "\x7d"))))
    | .symbol "#" =>
      match d, (← rest).drop 1 with
      | .duckdb, ⟨.number s, _⟩ :: _ =>
        skip 2
        return some (← make (.words ("#" ++ s)))
      | _, _ => return none
    | .symbol "%" =>
      unless d.likePostgres do return none
      skip 1
      if ← atSymbol "(" then
        skip 1
        let n ← name d
        expect ")"
        let _ ← word "S"
        return some (← make (.placeholder (some n.text)))
      else
        let _ ← word "S"
        return some (← make (.words "%s"))
    | .symbol s =>
      if d.likeHive && (s == "@" || s == "$") then braceParameter?
      else if s == "@" || (s == "$" && (d.likePostgres || d == .duckdb || d == .snowflake)) then
        match (← rest).drop 1 with
        | ⟨.word s _, _⟩ :: _ =>
          skip 2
          return some (← make .parameter [.of (.words s)])
        | ⟨.quoted s, _⟩ :: _ =>
          skip 2
          return some (← make .parameter [.of (.name (.inQuotes s))])
        | ⟨.number s, _⟩ :: _ =>
          skip 2
          return some (← make .parameter [.of (.number s)])
        | ⟨.string s, _⟩ :: _ =>
          skip 2
          return some (← make .parameter [.of (.string s)])
        | _ => return none
      else return none
    | _ => return none

/-- The mark of an outer join behind a column comes next. -/
def atJoinMark (d : Dialect) (ts : List Token) : Bool :=
  (d == .oracle || d == .redshift) && match ts with
    | a :: b :: c :: _ => a.isSymbol "(" && b.isSymbol "+" && c.isSymbol ")"
    | _ => false

def atCall (d : Dialect) : Parse Bool := do
  match ← rest with
  | t :: p :: r => return p.isSymbol "(" && isCallable d t && !atJoinMark d (p :: r)
  | _ => return false

/-- A choice by cases; `CASE` has been read and its comments are given. -/
def caseBody (g : Grammar) (notes : List String) : Parse Expr := do
  let subject ← g.condition
  let branches ← iterate ([] : List Expr) fun branches => do
    unless ← word "WHEN" do return none
    let c ← need "a condition" g.condition
    let _ ← word "THEN"
    let v ← need "a value" g.condition
    return some (v :: c :: branches)
  if branches.isEmpty then fail "WHEN"
  let other ← if ← word "ELSE" then g.condition else pure none
  let other ← if ← word "END" then pure other else
    match other with
    | some (.node (.interval none) _ [.node (.column [n]) ..]) =>
      -- the word that ends the choice was taken for the count of a span
      if Text.upper n.text == "END" then pure (some (.of (.column [.bare "interval"])))
      else fail "END"
    | _ => fail "END"
  makeWith notes (.case subject.isSome other.isSome)
    (subject.toList ++ branches.reverse ++ other.toList)

/-- A choice between two values without parentheses; `IF` has been read. -/
def ifBody? (g : Grammar) : Parse (Option Expr) := do
  match ← g.condition with
  | none => return none
  | some c =>
    let _ ← word "THEN"
    let a ← need "a value" g.condition
    let b ← if ← word "ELSE" then g.condition else pure none
    let _ ← word "END"
    return some (← make (.call "IF" "IF" true) (c :: a :: b.toList))

def nextValue? (g : Grammar) : Parse (Option Expr) := do
  unless ← words ["NEXT", "VALUE", "FOR"] do return none
  let x ← need "a counter" g.unary
  if (← atWord "OVER") && (← secondIs (·.isSymbol "(")) then
    skip 2
    let _ ← word "ORDER BY"
    let xs ← orderItems g
    expect ")"
    return some (← make (.phrase "NEXT VALUE FOR $1 OVER (ORDER BY @2)") (x :: xs))
  else return some (← make (.phrase "NEXT VALUE FOR $1") [x])

/-- A word in front of one operand, which together work like a call. -/
def prefixed? (g : Grammar) (w : String) : Parse (Option Expr) := attempt do
  unless ← word w do return none
  match ← g.unary with
  | some x => return some (← make (.phrase (w ++ " $1")) [x])
  | none => return none

/-- A count that need not be exact. -/
def approximate? (g : Grammar) : Parse (Option Expr) := attempt do
  unless ← word "APPROXIMATE" do return none
  unless ← atCall g.dialect do return none
  match ← call g false with
  | .node (.call "COUNT" _ true) n [.node .distinctArguments _ xs] =>
    return some (.node (.phrase "APPROXIMATE COUNT(DISTINCT @1)") n xs)
  | _ => return none

def ownMoments : Dialect → List String
  | .oracle => ["SYSDATE", "SYSTIMESTAMP"]
  | .redshift => ["SYSDATE"]
  | _ => []

/-- A function call, or one of the words that work like one. -/
def call? (g : Grammar) : Parse (Option Expr) := do
  match ← peek? with
  | none => return none
  | some t =>
    match t.word? with
    | some "CASE" =>
      if ← secondIs (·.isSymbol ".") then return none
      skip 1
      let notes ← takeNotes
      return some (← windowed g (← caseBody g notes))
    | some "ANY" =>
      if g.dialect == .clickhouse then
        if ← atCall g.dialect then return some (← call g false) else return none
      let found ← attempt do
        skip 1
        match ← g.bitwise with
        | some x => return some (← make .any [x])
        | none => return none
      match found with
      | some e => return some (← windowed g e)
      | none => return none
    | some "IF" =>
      if ← secondIs (·.isSymbol "(") then
        skip 2
        let xs ← commaList do
          match ← g.condition with
          | none => return none
          | some e =>
            if ← word "AS" then
              let n ← need "a name" anyName?
              return some (← make (.alias n) [e])
            else return some e
        unless xs.length == 2 || xs.length == 3 do throw (.arguments "IF")
        let e ← make (.call "IF" "IF" true) xs
        expect ")"
        return some (← windowed g e)
      else backtrack do
        skip 1
        ifBody? g
    | some "NEXT" =>
      if (← atWords ["NEXT", "VALUE", "FOR"]) then nextValue? g
      else if ← atCall g.dialect then return some (← call g false)
      else return none
    | some "CONNECT_BY_ROOT" => prefixed? g "CONNECT_BY_ROOT"
    | w =>
      if w == some "PRIOR" && (g.readsPrior
        || g.dialect == .oracle) then return ← prefixed? g "PRIOR"
      if w == some "VARIADIC" && g.dialect == .postgres then return ← prefixed? g "VARIADIC"
      if w == some "APPROXIMATE" && g.dialect == .redshift then
        if let some e ← approximate? g then return some e
      if ← atCall g.dialect then return some (← call g false)
      match w with
      | some u =>
        if (Function.momentWords g.dialect).contains u then
          skip 1
          return some (← make (.moment u))
        else if ownMoments g.dialect |>.contains u then
          skip 1
          return some (← make (.words u))
        else return none
      | none => return none

/-- The word in front of the rows of a list of values, where no row follows and it is a name. -/
def valuesName? (d : Dialect) : Parse (Option Name) := do
  if d.likeMysql || d == .clickhouse || !(← atWord "VALUES") then return none
  if ← secondIs (·.isSymbol "(") then return none
  anyName?

def plainName? (d : Dialect) : Parse (Option Name) := do
  if (← nextIs (isName d)) || (d == .tsql && (← atSymbol "#")) then name? d else valuesName? d

/-- Braces with a letter and a text are literals of dates and times. -/
def bracedMoment? : Parse (Option Expr) := backtrack do
  unless ← symbol "\x7b" do return none
  match ← oneOf ["D", "T", "TS"] with
  | none => return none
  | some w =>
    match ← literalText? with
    | none => return none
    | some s =>
      unless ← symbol "\x7d" do return none
      let name := if w == "D" then "DATE" else if w == "T" then "TIME" else "TIMESTAMP"
      return some (← make (.call name name true) [.of (.string s)])

/-- Braces with the word `fn` around a call. -/
def bracedCall? (g : Grammar) : Parse (Option Expr) := backtrack do
  unless ← symbol "\x7b" do return none
  unless ← word "FN" do return none
  match ← call? g with
  | none => return none
  | some e =>
    let _ ← symbol "\x7d"
    return some e

/-- What an identifier may be: a literal, something in parentheses, a call, a name or a parameter.
-/
def atom? (g : Grammar) : Parse (Option Expr) := do
  match ← literal? g with
  | some e => return some e
  | none =>
    match ← parenthesized? g with
    | some e => return some e
    | none =>
      if let some e ← bracedCall? g then return some e
      match ← call? g with
      | some e => return some e
      | none =>
        match ← plainName? g.dialect with
        | some n =>
          if n.quoted && g.dialect == .bigquery && n.text.toList.contains '.' then
            return some (← make (.column ((n.text.splitOn ".").map fun s => .inQuotes s)))
          else return some (← make (.column [n]))
        | none => placeholder? g.dialect (g.dataType false)

/-- The comments inside a path as operands, one for each of its names. -/
def pathNotes (parts : List (List String)) : List Expr :=
  if parts.all List.isEmpty then []
  else [.of .pathNotes (parts.map fun notes => .node (.words "") notes [])]

def notesOfPath (length : Nat) : List Expr → List (List String)
  | .node .pathNotes _ parts :: _ => parts.map Expr.notes
  | _ => List.replicate length []

/-- The column with comments at the last name of its path. Those behind a column that has comments
already are lost. -/
def notedLast (notes : List String) (e : Expr) : Expr :=
  if notes.isEmpty then e
  else match e with
    | .node (.column path) old xs =>
      if old.isEmpty then
        let noted := (notesOfPath path.length xs).zipIdx.map fun (ns, i) =>
          if i + 1 == path.length then ns ++ notes else ns
        .node (.column path) old (pathNotes noted)
      else e
    | e => e.annotate notes

def pointTail (g : Grammar) (e : Expr) : Parse Expr := do
  let beside ← takeNotes
  let e := notedLast beside e
  let isCall ← do
    match ← rest with
    | t :: p :: r =>
      pure (p.isSymbol "(" && (nameOf? t).isSome && !t.isWord "SELECT"
        && !atJoinMark g.dialect (p :: r))
    | _ => pure false
  if isCall then
    let f ← call g true
    let base := match e with
      | .node (.column path) notes _ => (pathFields path).annotate notes
      | e => e
    match f with
    | .node (.window shape) notes (inner :: xs) =>
      return .node (.window shape) notes (.of .dot [base, inner] :: xs)
    | f => make .dot [base, f]
  else
    match ← literal? g with
    | some (.node .star notes changes) =>
      match e with
      | .node (.column path) n inside => return .node (.allOf path) (n ++ notes) (inside ++ changes)
      | e => return .of .dot [e, .node .star notes changes]
    | some x => return .of .dot [e, x]
    | none =>
      match ← anyName? with
      | none =>
        match e.form, ← rest with
        | .column path, ⟨.symbol "$", _⟩ :: ⟨.number k, _⟩ :: _ =>
          skip 2
          make (.phrase ("$1$$" ++ k)) [.of (.column (path ++ [.bare ""]))]
        | _, _ => fail "a name"
      | some n =>
        let notes ← takeNotes
        match e with
        | .node (.column path) old xs =>
          if path.length < 4 then
            let inside := pathNotes (notesOfPath path.length xs ++ [[]])
            return .node (.column (path ++ [n])) (old ++ notes) inside
          else return .node .dot notes [e, .of (.name n)]
        | e => return .node .dot notes [e, .of (.name n)]

/-- The end and the step of a range of indexes whose start and first colon have been read. -/
def sliceTail (g : Grammar) (low : Expr) : Parse Expr := do
  let high ← do
    if (← atSymbol "-") && (← secondIs (·.isSymbol ":")) then
      skip 1
      pure (some (Expr.of (.unary .negative) [.of (.number "1")]))
    else g.condition
  let step ← if ← symbol ":" then g.unary else pure none
  make .slice (low :: high.getD (.of (.words "")) :: step.toList)

def index? (g : Grammar) : Parse (Option Expr) := do
  if ← symbol ":" then return some (← sliceTail g (.of (.words "")))
  match ← g.condition with
  | none => return none
  | some e =>
    if ← word "AS" then
      let n ← need "a name" anyName?
      return some (← make (.alias n) [e])
    if ← symbol ":" then return some (← sliceTail g e)
    else return some e

/-- A whole number by constant sums and products. -/
def constant? : Expr → Option Int
  | .node (.number s) _ _ => if Function.isWholeNumber s then s.toInt? else none
  | .node (.unary .negative) _ [x] => (constant? x).map (- ·)
  | .node .paren _ [x] => constant? x
  | .node (.binary .add) _ [x, y] => do return (← constant? x) + (← constant? y)
  | .node (.binary .subtract) _ [x, y] => do return (← constant? x) - (← constant? y)
  | .node (.binary .multiply) _ [x, y] => do return (← constant? x) * (← constant? y)
  | _ => none

/-- Dialects in which the first item of a list has the number one. -/
def countsFromOne : Dialect → Bool
  | .clickhouse | .duckdb | .postgres | .presto | .redshift | .trino => true
  | _ => false

/-- What stands in brackets may be a list, or something whose type is not known. -/
def mayBeList (e : Expr) : Bool :=
  match e.form with
  | .cast (.array ..) _ => true
  | .cast .. | .string _ | .number _ | .boolean _ | .extract => false
  | _ => true

/-- A single index that is a constant is computed where items are counted from one. -/
def normalIndexes (d : Dialect) (e : Expr) (xs : List Expr) : List Expr :=
  match xs with
  | [x] =>
    if countsFromOne d && mayBeList e then
      match constant? x with
      | some n =>
        if n < 0 then [.of (.unary .negative) [.of (.number (toString (-n)))]]
        else [.of (.number (toString n))]
      | none => xs
    else xs
  | xs => xs

def recordPair? (g : Grammar) : Parse (Option Expr) := do
  match ← rest with
  | ⟨.string s, notes⟩ :: colon :: _ =>
    if g.dialect == .snowflake && colon.isSymbol ":" then
      skip 2
      let v ← need "a value" g.condition
      return some (.of .slice [.node (.string s) notes [], v])
    else index? g
  | _ => index? g

/-- Braces behind an expression make a map or a record; what stands in front of them only counts
where there are maps. -/
def braces? (g : Grammar) (e : Expr) : Parse (Option Expr) := do
  unless ← symbol "\x7b" do return none
  let xs ← commaList (recordPair? g)
  expect "\x7d"
  let isMap := match e.form with
    | .column [n] => Text.upper n.text == "MAP"
    | _ => false
  let map? := if isMap then Record.map? g.dialect xs else none
  return some (← settle (map?.getD (Record.ofBraces g.dialect xs)))

/-- Square brackets behind an expression: indexes, or the items of a list. -/
def brackets (g : Grammar) (e : Expr) : Parse Expr :=
  iterate e fun e => do
    if let some e ← braces? g e then return some e
    unless ← symbol "[" do return none
    let xs ← commaList (index? g)
    expect "]"
    let listWord := match e with
      | .node (.column [n]) _ _ =>
        if n.quoted then none
        else
          let u := Text.upper n.text
          if u == "ARRAY" || u == "LIST" then some u else none
      | _ => none
    match listWord with
    | some w => return some (← settle (← makeWith e.notes (.arrayLiteral w) xs))
    | none =>
      let xs := normalIndexes g.dialect e xs
      return some (← settle (← makeWith e.notes .subscript (e.bare :: xs)))

def bracketed? (g : Grammar) : Parse (Option Expr) := do
  if ← symbol "[" then
    let xs ← commaList (index? g)
    expect "]"
    let e ← settle (← make (.arrayLiteral "ARRAY") xs)
    return some (← brackets g e)
  else
    if let some e ← bracedMoment? then return some e
    if ← symbol "\x7b" then
      let xs ← commaList (recordPair? g)
      expect "\x7d"
      let e ← settle (Record.ofBraces g.dialect xs)
      return some (← brackets g e)
    else return none

/-- Dialects in which a colon behind a value leads into a document. -/
def colonIsPath : Dialect → Bool
  | .databricks | .snowflake => true
  | _ => false

def pathText (t : Token) : String :=
  match t.lexeme with
  | .quoted s => "\"" ++ s ++ "\""
  | .string s => "'" ++ s ++ "'"
  | _ => t.shown

/-- A path behind a colon: words, points and brackets up to anything else. -/
def colonPath : Parse String := do
  let first ← need "a key" anyNameToken?
  let (text, _) ← iterate (pathText first, ()) fun (text, _) => do
    match ← rest with
    | a :: b :: c :: _ =>
      if a.isSymbol "[" && c.isSymbol "]" then
        skip 3
        return some (text ++ "[" ++ pathText b ++ "]", ())
      else if (a.isSymbol "." || a.isSymbol ":") && (nameOf? b).isSome then
        skip 2
        return some (text ++ "." ++ pathText b, ())
      else return none
    | [a, b] =>
      if (a.isSymbol "." || a.isSymbol ":") && (nameOf? b).isSome then
        skip 2
        return some (text ++ "." ++ pathText b, ())
      else return none
    | _ => return none
  return text
where
  /-- A token that may be a key. -/
  anyNameToken? : Parse (Option Token) := do
    match ← peek? with
    | some t =>
      if (nameOf? t).isSome then
        skip 1
        return some t
      else return none
    | none => return none

def colonTail? (g : Grammar) (e : Expr) : Parse (Option Expr) := do
  unless colonIsPath g.dialect && (← atSymbol ":") do return none
  skip 1
  let text ← colonPath
  let shown := match JsonPath.ofText? text with
    | some p => p.innerText
    | none => text
  if g.dialect == .databricks then
    return some (← make (.phrase ("$1:" ++ Phrase.literal shown)) [e])
  else return some (← make (.call "JSON_EXTRACT" "JSON_EXTRACT" true) [e, .of (.string shown)])

/-- The operators that bind closest to a document. -/
def columnOperators (d : Dialect) : List (String × (Expr → Expr → Expr)) :=
  let plain (op : BinaryOp) (a b : Expr) : Expr := .of (.binary op) [a, b]
  [("->", Function.arrow d false), ("->>", Function.arrow d true)]
    ++ (if d.likeMysql then [] else [("#>", plain .jsonPath), ("#>>", plain .jsonPathText)])
    ++ (match d with
      | .clickhouse => [(".^", fun a b => .of (.phrase "$1.^$2") [a, b])]
      | .snowflake => [("!", modelPart), ("?", plain .jsonHasKey)]
      | _ => [("?", plain .jsonHasKey)])
where
  /-- A part of a model; in front of a method its name is no column. -/
  modelPart (model part : Expr) : Expr :=
    match model, part.form with
    | .node (.column path) notes _, .call .. =>
      .of (.phrase "$1!$2") [(pathFields path).annotate notes, part]
    | _, _ => .of (.phrase "$1!$2") [model, part]

/-- The key behind a JSON operator; a column may be a path. -/
def keyOperand (g : Grammar) : Parse Expr := do
  match ← atom? g with
  | none => need "a key" g.bitwise
  | some x =>
    match x.form with
    | .column _ =>
      iterate x fun x => do
        if ← symbol "." then return some (← pointTail g x) else return none
    | _ => return x

/-- Points, casts, JSON operators and brackets behind an expression. -/
def columnTail (g : Grammar) (e : Expr) : Parse Expr := do
  let e ← brackets g e
  iterate e fun e => do
    match ← peek? with
    | none => return none
    | some t =>
      if t.isSymbol "." then
        skip 1
        return some (← brackets g (← pointTail g e))
      else if t.isSymbol "::" || (t.isSymbol "?::" && g.dialect == .databricks) then
        skip 1
        let target ← need "a type" (g.dataType false)
        return some (← brackets g (← make (.cast target (t.isSymbol "?::")) [e]))
      else if t.isSymbol ".:" then
        skip 1
        let target ← need "a type" (g.dataType false)
        let shown := Phrase.literal (target.render g.dialect)
        return some (← brackets g (← make (.phrase ("$1.:" ++ shown)) [e]))
      else if let some e ← colonTail? g e then return some (← brackets g e)
      else
        match t.lexeme with
        | .symbol s =>
          match (columnOperators g.dialect).lookup s with
          | some op =>
            skip 1
            let field ← keyOperand g
            return some (← brackets g (← settle (op e field)))
          | none => return none
        | _ => return none

end QueryFlow.Sql.Parse
