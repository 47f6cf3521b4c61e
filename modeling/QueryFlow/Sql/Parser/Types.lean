import QueryFlow.Sql.Parser.Grammar

/-!
Reading data types: a known word with its arguments and parts, any other name where the dialect lets
types be named freely, and the brackets that make a list of a type.
-/

namespace QueryFlow.Sql.Parse

open QueryFlow.Sql

def isTypeWord (d : Dialect) (u : String) : Bool :=
  u == "INTERVAL" || (DataType.nestedWords d).contains u || (DataType.ofWord? d u).isSome

def isFreeWord (d : Dialect) (u : String) : Bool := !keywords.contains u && !isTypeWord d u

def lengthUnit? : Parse (Option String) := do
  match (← peek?).map Token.lexeme with
  | some (.word _ u) =>
    skip 1
    return some u
  | _ => return none

/-- An argument of a type: a number, a string or a word. -/
def typeArgument? : Parse (Option TypeArgument) := do
  match (← peek?).map Token.lexeme with
  | some (.number s) =>
    skip 1
    match ← lengthUnit? with
    | some unit => return some (.measured s unit)
    | none => return some (.number s)
  | some (.string s) =>
    skip 1
    match ← rest with
    | ⟨.symbol "=", _⟩ :: ⟨.number n, _⟩ :: _ =>
      skip 2
      return some (.valued s n)
    | _ => return some (.string s)
  | some (.word _ u) =>
    skip 1
    return some (.word u)
  | some (.quoted s) =>
    skip 1
    return some (.word (Text.upper s))
  | _ => return none

/-- Arguments of a type in parentheses, when they are of the right form. -/
def typeArguments? : Parse (Option (List TypeArgument)) := do
  unless ← symbol "(" do return none
  let args ← separated typeArgument?
  if ← symbol ")" then return some args else return none

/-- A part of a record type, with or without a name, which may say that it has no null. -/
def recordPart? (g : Grammar) : Parse (Option (Option Name × DataType)) := do
  let named ← backtrack do
    match ← name? g.dialect with
    | none => return none
    | some n =>
      let _ ← symbol ":"
      unless ← nextIs fun t => (t.word?.map (isTypeWord g.dialect)).getD false do return none
      match ← g.dataType true with
      | some t =>
        if ← words ["NOT", "NULL"] then return some (some n, .required t)
        else return some (some n, t)
      | none => return none
  match named with
  | some p => return some p
  | none => return (← g.dataType false).map fun t => (none, t)

def typePart? (g : Grammar) (standard : String) : Parse (Option (Option Name × DataType)) := do
  if DataType.isRecord standard then recordPart? g
  else return (← g.dataType false).map fun t => (none, t)

def typeParts? (g : Grammar) (standard : String) :
    Parse (Option (List (Option Name × DataType))) := do
  if ← symbol "<" then
    let parts ← separated (typePart? g standard)
    if ← symbol ">" then return some parts
    fail ">"
  else if ← symbol "(" then
    let parts ← separated (typePart? g standard)
    if ← symbol ")" then return some parts else return none
  else return none

/-- The time zone words behind a type of times, and the sign of a type of numbers. -/
def qualified (standard : String) (arguments : List TypeArgument) : Parse DataType := do
  let times := standard == "TIME" || standard == "TIMETZ"
  let stamps := ["TIMESTAMP", "TIMESTAMPTZ", "TIMESTAMPLTZ", "TIMESTAMPNTZ"].contains standard
  if times || stamps then
    if ← words ["WITH", "TIME", "ZONE"] then
      return .simple (if times then "TIMETZ" else "TIMESTAMPTZ") arguments
    if ← words ["WITH", "LOCAL", "TIME", "ZONE"] then return .simple "TIMESTAMPLTZ" arguments
    let _ ← words ["WITHOUT", "TIME", "ZONE"]
    return .simple standard arguments
  else if ← word "UNSIGNED" then
    match DataType.unsigned? standard with
    | some t => return .simple t arguments
    | none => fail "a type of numbers"
  else
    let _ ← if (DataType.unsigned? standard).isSome then word "SIGNED" else pure false
    return .simple standard arguments

/-- Square brackets behind a type make it a list. A size counts where a column is declared, and in
the one dialect that has lists of a fixed size. -/
def arrayTail (g : Grammar) (declaring : Bool) (t : DataType) : Parse DataType := do
  let start ← get
  let word ← word "ARRAY"
  let sized := declaring || g.dialect == .duckdb
  let (t, pending) ← iterate (t, word) fun (t, _) => do
    match ← rest with
    | a :: b :: _ =>
      if a.isSymbol "[" && b.isSymbol "]" then
        skip 2
        return some (.array t none, false)
      match (← rest).take 3 with
      | [a, ⟨.number s, _⟩, c] =>
        if a.isSymbol "[" && c.isSymbol "]" && sized then
          skip 3
          return some (.array t (some s), false)
        else return none
      | _ => return none
    | _ => return none
  if pending then
    if ← atSymbol "[" then
      set start
      return t
    else return .array t none
  else return t

/-- Types to which a dialect gives arguments when the text gives none. -/
def completed (d : Dialect) : DataType → DataType
  | .simple "DECIMAL" [] =>
    match d with
    | .duckdb => .simple "DECIMAL" [.number "18", .number "3"]
    | .snowflake => .simple "DECIMAL" [.number "38", .number "0"]
    | _ => .simple "DECIMAL" []
  | .simple "JSON" _ => .simple "JSON" []
  | t => t

/-- The word behind `INTERVAL` that says what is counted. -/
def intervalWord? (d : Dialect) : Parse (Option String) := do
  match (← peek?).bind Token.word? with
  | some u =>
    if isFreeWord d u || u == "YEAR" then
      skip 1
      return some u
    else return none
  | none => return none

/-- A span of time as a type; its word has been read. -/
def intervalType (d : Dialect) : Parse DataType := do
  let arguments ← backtrack typeArguments?
  match ← intervalWord? d with
  | none => return .interval none (arguments.getD [])
  | some unit =>
    let last ← if ← word "TO" then intervalWord? d else pure none
    return .interval (some (unit ++ (last.map (" TO " ++ ·)).getD "")) (arguments.getD [])

def nestedStandard : String → String
  | "LIST" => "ARRAY"
  | "ROW" | "TUPLE" | "RECORD" => "STRUCT"
  | u => u

def knownType? (g : Grammar) (declaring : Bool) : Parse (Option DataType) := do
  match (← peek?).bind Token.word? with
  | none => return none
  | some u =>
    if u == "INTERVAL" then
      skip 1
      return some (← arrayTail g declaring (← intervalType g.dialect))
    else if (DataType.nestedWords g.dialect).contains u then
      let standard := nestedStandard u
      let angled ← secondIs (·.isSymbol "<")
      let opens ← secondIs fun t => t.isSymbol "<" || t.isSymbol "("
      if opens then
        backtrack do
          skip 1
          match ← typeParts? g standard with
          | some parts =>
            let whole := match standard, parts with
              | "ARRAY", [(none, t)] => DataType.array t none
              | _, _ => .nested standard parts
            let values := angled && !declaring
              && (← nextIs fun t => t.isSymbol "[" || t.isSymbol "(")
            if values then return some whole
            else return some (← arrayTail g declaring whole)
          | none => return none
      else if ["ROW", "LIST", "NULLABLE", "UNION", "RANGE"].contains u then return none
      else
        skip 1
        return some (.simple standard [])
    else match DataType.ofWord? g.dialect u with
      | none => return none
      | some standard => backtrack do
        skip 1
        if DataType.catalogueWords.contains standard then return some (.simple standard [])
        let arguments ← if ← atSymbol "(" then typeArguments? else pure (some [])
        match arguments with
        | none => return none
        | some arguments =>
          let t ← arrayTail g declaring (completed g.dialect (← qualified standard arguments))
          return some t

/-- Hive and its kin take texts of a given length for plain texts, except in declarations. -/
def plainText (d : Dialect) (declaring : Bool) (t : DataType) : DataType :=
  if d.likeHive && !declaring then
    match t with
    | .simple "VARCHAR" _ => .simple "TEXT" []
    | .simple "CHAR" _ => .simple "TEXT" []
    | t => t
  else t

/-- The type that a quoted name means when its text is the word for a type. -/
def quotedType? (d : Dialect) (t : Token) : Option DataType :=
  match t.lexeme with
  | .quoted s => (DataType.ofWord? d (Text.upper s)).map fun w => completed d (.simple w [])
  | _ => none

def namedType? (g : Grammar) (declaring : Bool) : Parse (Option DataType) := backtrack do
  if ← nextIs fun t => (t.word?.map fun u => !isFreeWord g.dialect u).getD false then return none
  match ← name? g.dialect with
  | none => return none
  | some n =>
    let path ← iterate [n] fun path => do
      if ← symbol "." then
        let next ← need "a name" anyName?
        return some (next :: path)
      else return none
    let arguments ← if ← atSymbol "(" then typeArguments? else pure (some [])
    match arguments with
    | none => return none
    | some arguments => return some (← arrayTail g declaring (.named path.reverse arguments))

def anyType? (g : Grammar) (declaring : Bool) : Parse (Option DataType) := do
  match ← knownType? g declaring with
  | some t => return some (plainText g.dialect declaring t)
  | none =>
    match (← peek?).bind (quotedType? g.dialect) with
    | some t =>
      skip 1
      return some (← arrayTail g declaring t)
    | none => if g.dialect.namedTypes then namedType? g declaring else return none

end QueryFlow.Sql.Parse
