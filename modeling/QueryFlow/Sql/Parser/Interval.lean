import QueryFlow.Sql.DatePart
import QueryFlow.Sql.Parser.Primary

/-!
Reading spans of time and literals with their type in front of them.
-/

namespace QueryFlow.Sql.Parse

open QueryFlow.Sql

/-- Words for units of time by which a column behind `INTERVAL` is known to be counted. -/
def intervalUnits : List String := DatePart.knownWords

/-- The counts with their units inside a text, from left to right; `fuel` is at least the number of
characters. What stands between them does not count. -/
def countsAndUnits : Nat → List Char → List (String × String)
  | 0, _ => []
  | _, [] => []
  | fuel + 1, c :: r =>
    let cs := c :: r
    let (sign, ds) := match cs with
      | '-' :: r => (['-'], r)
      | r => ([], r)
    let whole := ds.takeWhile Text.isDigit
    let rest := ds.drop whole.length
    let (fraction, rest) := match rest with
      | '.' :: f =>
        let digits := f.takeWhile Text.isDigit
        if digits.isEmpty then ([], rest) else ('.' :: digits, f.drop digits.length)
      | f => ([], f)
    let afterBlanks := Text.stripLeft rest
    let unit := afterBlanks.takeWhile fun x => x.isAlpha && x.toNat < 128
    if whole.isEmpty || unit.isEmpty then countsAndUnits fuel r
    else
      (String.ofList (sign ++ whole ++ fraction), String.ofList unit)
        :: countsAndUnits fuel (afterBlanks.drop unit.length)

/-- The counts with their units inside the text of a span. -/
def spanParts (s : String) : List (String × String) := countsAndUnits s.length s.toList

/-- A text that counts days and, behind a blank, a time of day. -/
def isDayTime (s : String) : Bool :=
  let cs := Text.stripLeft s.toList
  let cs := match cs with
    | '-' :: r => Text.stripLeft r
    | r => r
  let whole := cs.takeWhile Text.isDigit
  let rest := cs.drop whole.length
  let rest := match rest with
    | '.' :: f => f.dropWhile Text.isDigit
    | f => f
  match rest with
  | b :: more =>
    let time := Text.stripLeft more
    let time := match time with
      | '-' :: r => r
      | r => r
    let hours := time.takeWhile Text.isDigit
    match time.drop hours.length with
    | ':' :: m :: _ => !whole.isEmpty && Text.isBlank b && !hours.isEmpty && Text.isDigit m
    | _ => false
  | [] => false

/-- The unit behind the count of a span: any word but the one in front of a type or a name. -/
def spanUnit? (g : Grammar) : Parse (Option Expr) := do
  if ← atCall g.dialect then return some (← call g false)
  if (← atWord "AS") || (← atSymbol "::") then return none
  return (← anyWord?).map fun w => .of (.words w)

def spanOf (value : Expr) (unit last : Option Expr) : Expr :=
  match unit, last with
  | none, _ => .of (.interval none) [value]
  | some u, none =>
    match u.form with
    | .words w => .of (.interval (some (Function.unitText w))) [value]
    | _ => .of (.phrase "INTERVAL $1 $2") [value, u]
  | some u, some l =>
    match u.form, l.form with
    | .words a, .words b => .of (.interval (some (a ++ " TO " ++ b))) [value]
    | _, _ => .of (.phrase "INTERVAL $1 $2 TO $3") [value, u, l]

/-- A whole number without zeros in front. -/
def numberText (s : String) : String :=
  if Function.isWholeNumber s then (s.toNat?.map toString).getD s else s

def span? (g : Grammar) : Parse (Option Expr) := do
  let value ← do
    match ← peek? with
    | some ⟨.string _, _⟩ => literal? g
    | _ => g.term
  match value with
  | none => return none
  | some x =>
    let unknownUnit ← do
      match x.form, ← peek? with
      | .column [n], some t =>
        pure (!n.quoted && !((t.word?.map intervalUnits.contains).getD false))
      | _, _ => pure false
    if unknownUnit then return none
    let start ← get
    let text := match x.form with
      | .string s => some s
      | _ => none
    let dayTime := g.dialect.likePostgres && (text.map isDayTime).getD false
    let unit ← do
      if dayTime then
        let first ← anyWord?
        let second ← if first.isSome && (← word "TO") then anyWord? else pure none
        let complete := first.isSome && second.isSome
        set start
        if complete then spanUnit? g else pure none
      else spanUnit? g
    let (value, unit) ← do
      match x with
      | .node (.number s) n _ => pure (Expr.node (.string (numberText s)) n [], unit)
      | .node (.unary .negative) n [.node (.number s) _ _] =>
        pure (Expr.node (.string ("-" ++ numberText s)) n [], unit)
      | .node (.string s) n _ =>
        match spanParts s with
        | [] => pure (x, unit)
        | parts =>
          if unit.isSome then set start
          match parts with
          | [(count, u)] => pure (.node (.string count) n [], some (.of (.words (Text.upper u))))
          | _ => pure (x, none)
      | x => pure (x, unit)
    let last ← if ← word "TO" then spanUnit? g else pure none
    return some (← settle (spanOf value unit last))

/-- Spans of time that are added up; `INTERVAL` is the next token. -/
def interval? (g : Grammar) : Parse (Option Expr) := backtrack do
  unless ← word "INTERVAL" do return none
  match ← span? g with
  | none => return none
  | some first =>
    let (spans, _) ← iterate ([first], ()) fun (spans, _) => backtrack do
      let _ ← symbol "+"
      let counted ← nextIs fun t =>
        match t.lexeme with
        | .string _ | .number _ => true
        | _ => false
      unless counted do return none
      return (← span? g).map fun s => (s :: spans, ())
    let rec summed : List Expr → Expr → Expr
      | [], last => last
      | s :: r, last => summed r (.of (.binary .add) [s, last])
    match spans with
    | last :: before => return some (summed before last)
    | [] => return none

/-- A text with a sign or a letter behind a colon names a time zone. -/
def namesZone (s : String) : Bool :=
  let tail := (s.toList.dropWhile (· != ':')).drop 1
  tail.any fun c => c == '+' || c == '-' || (c.isAlpha && c.toNat < 128)

def typedValue (g : Grammar) (t : DataType) (literal x : Expr) : Parse Expr := do
  let d := g.dialect
  match t, literal.form with
  | .simple "JSON" _, .string _ => make (.call "PARSE_JSON" "PARSE_JSON" true) [x]
  | .simple "DATE" [], .string _ =>
    if d == .oracle then make (.phrase "TO_DATE($1, 'YYYY-MM-DD')") [x]
    else make (.cast t false) [x]
  | .simple "TIMESTAMP" args, .string s =>
    if (d == .presto || d == .trino) && namesZone s then
      make (.cast (.simple "TIMESTAMPTZ" args) false) [x]
    else make (.cast t false) [x]
  | _, _ => make (.cast t false) [x]

/-- The values behind a type made of other types, which are one value of that type. -/
def inlineValues? (g : Grammar) (t : DataType) : Parse (Option Expr) := do
  let isArray := match t with
    | .array .. => true
    | _ => false
  let isStruct := match t with
    | .nested "STRUCT" _ => true
    | _ => false
  unless isArray || isStruct do return none
  unless (← symbol "[") || (← symbol "(") do return none
  let xs ← commaList g.condition
  let _ ← if ← symbol "]" then pure true else symbol ")"
  if isArray then
    if g.dialect == .bigquery then
      return some (← make (.phrase (Phrase.literal (t.render g.dialect) ++ "[@1]")) xs)
    else
      let list ← make (.arrayLiteral "ARRAY") xs
      return some (← make (.cast t false) [list])
  else
    let record ← make (.call "STRUCT" "STRUCT" true) xs
    return some (← make (.cast t false) [record])

/-- Mysql casts the operand behind the word `BINARY`, wherever it stands. A call has that name too,
so a length counts only in front of a text. -/
def binaryOperand? (g : Grammar) : Parse (Option Expr) := backtrack do
  unless g.dialect.likeMysql && (← atWord "BINARY") do return none
  match ← knownType? g false with
  | none => return none
  | some t =>
    let isSized : Bool := match t with
      | .simple _ args => !args.isEmpty
      | _ => true
    let beforeText ← nextIs fun t =>
      match t.lexeme with
      | .string _ => true
      | _ => false
    if isSized && !beforeText then return none
    let x ← need "an operand" (atom? g)
    return some (← make (.cast t false) [← columnTail g x])

def typedLiteral? (g : Grammar) : Parse (Option Expr) := attempt do
  match (← peek?).bind Token.word? with
  | none => return none
  | some _ =>
    match ← knownType? g false with
    | none => return none
    | some t =>
      let plain := match t with
        | .simple _ args => args.isEmpty
        | _ => false
      let t := plainText g.dialect false t
      match ← peek? with
      | some ⟨.string _, _⟩ =>
        match ← literal? g with
        | some l => return some (← typedValue g t l (← columnTail g l))
        | none => return none
      | some ⟨.number _, _⟩ =>
        unless plain do return none
        match ← literal? g with
        | some l => return some (← typedValue g t l (← columnTail g l))
        | none => return none
      | _ =>
        match ← inlineValues? g t with
        | some e => return some (← columnTail g e)
        | none => return none

end QueryFlow.Sql.Parse
