import QueryFlow.Sql.Function.Meaning.Dates

/-!
Functions as snowflake reads them.
-/

namespace QueryFlow.Sql

namespace Function

/-- A value as a date or a time: a text is cast, and a format may say how to read it. -/
def snowflakeMoment? (u : String) (args : List Expr) : Option Expr :=
  let (safe, base) := if u.startsWith "TRY_" then (true, (u.drop 4).toString) else (false, u)
  let name? : Option (String × String) := match base with
    | "DATE" | "TO_DATE" => some ("DATE", "TO_DATE")
    | "TIME" | "TO_TIME" => some ("TIME", "TO_TIME")
    | "TO_TIMESTAMP" => some ("TIMESTAMP", "TO_TIMESTAMP")
    | "TO_TIMESTAMP_NTZ" => some ("TIMESTAMPNTZ", "TO_TIMESTAMP_NTZ")
    | "TO_TIMESTAMP_LTZ" => some ("TIMESTAMPLTZ", "TO_TIMESTAMP_LTZ")
    | "TO_TIMESTAMP_TZ" => some ("TIMESTAMPTZ", "TO_TIMESTAMP_TZ")
    | _ => none
  name?.bind fun (type, name) =>
    match args with
    | [a] =>
      match a.form with
      | .string s =>
        if isWholeNumber s then none else some (.of (.cast (.simple type []) safe) [a])
      | _ =>
        if type == "DATE" || type == "TIME" then
          some (phrase ((if safe then "TRY_" else "") ++ name ++ "($1)") [a])
        else none
    | [_, _] => some (formatSecond .snowflake ((if safe then "TRY_" else "") ++ name) args)
    | _ => none

/-- Whether an argument is given by name. -/
def isNamed (e : Expr) : Bool :=
  match e.form with
  | .namedArgument .. => true
  | _ => false

/-- The value, the places and the rule of a rounding, some of which may be given by name. Names that
say nothing of them are left out. -/
def roundingParts (args : List Expr) : List Expr :=
  let named? (name : String) : Option Expr := args.findSome? fun e => match e with
    | .node (.namedArgument n _) _ [x] => if Text.upper n.text == name then some x else none
    | _ => none
  let plain := args.filter (!isNamed ·)
  (plain.head? <|> named? "EXPR").toList ++ ((plain.drop 1).head? <|> named? "SCALE").toList
    ++ ((plain.drop 2).head? <|> named? "ROUNDING_MODE").toList

def snowflakeMeaning? (u : String) (args : List Expr) : Option Expr :=
  let zero := numberOf "0"
  let isNull (a : Expr) : Expr := .of (.binary .is) [a, .of .null]
  let isZero (a : Expr) : Expr := .of (.binary .equal) [a, zero]
  let quotient (a b : Expr) : Expr := .of (.binary .divide) [shielded a, shielded b]
  snowflakeMoment? u args <|> match u, args with
  | "TIMESTAMP", [a] => some (castOf "TIMESTAMP" a)
  | "ROUND", _ => if args.any isNamed then some (callOf "ROUND" (roundingParts args)) else none
  | "TIMESTAMP", [a, z] => some (zonedMoment .snowflake a z)
  | "MAKE_INTERVAL", _ :: _ => some (namedSpan ", " args)
  | "MAP", [.node (.arrayLiteral _) _ ks, .node (.arrayLiteral _) _ vs] =>
    some (callOf "MAP" ((ks.zip vs).flatMap fun (k, v) => [k, v]))
  | "TIME_ADD", [a, n, p] => some (phrase "TIMEADD($3, $2, $1)" [a, n, unitArgument p])
  | "DATETIME_DIFF", a :: b :: r =>
    some (phrase ("TIMESTAMPDIFF(" ++ Phrase.literal (unitOrDay r) ++ ", $2, $1)") [a, b])
  | "STRTOK", [a] => some (callOf u [a, stringOf " ", numberOf "1"])
  | "STRTOK", [a, sep] | "SPLIT_PART", [a, sep] => some (callOf u [a, sep, numberOf "1"])
  | "STRTOK_TO_ARRAY", [a] => some (callOf u [a, stringOf " "])
  | "SHA2_BINARY", [a] | "SHA2_DIGEST", [a] => some (callOf "SHA2_DIGEST" [a, numberOf "256"])
  | "CURRENT_DATE", [z] =>
    some (phrase "CAST(CONVERT_TIMEZONE($1, CURRENT_TIMESTAMP()) AS DATE)" [z])
  | "ZEROIFNULL", [a] => some (callOf "IF" [isNull a, zero, a])
  | "NULLIFZERO", [a] => some (callOf "IF" [isZero a, .of .null, a])
  | "DIV0", [a, b] =>
    some (callOf "IF"
      [.of (.binary .and) [isZero b, .of (.unary .not) [isNull a]], zero, quotient a b])
  | "DIV0NULL", [a, b] =>
    some (callOf "IF" [.of (.binary .or) [isZero b, isNull b], zero, quotient a b])
  | "SQUARE", [a] => some (.of (.binary .power) [a, numberOf "2"])
  | "DATEADD", [p, n, a] | "TIMEADD", [p, n, a] | "TIMESTAMPADD", [p, n, a] =>
    let name := if u == "TIMEADD" then u else "DATEADD"
    some (phrase (name ++ "($3, $2, $1)") [a, n, partArgument .snowflake p])
  | "DATEDIFF", [p, a, b] | "TIMEDIFF", [p, a, b] | "TIMESTAMPDIFF", [p, a, b] =>
    some (callOf "DATEDIFF" [b, a, partArgument .snowflake p])
  | "DATE_ADD", [a, n] => some (phrase "DATEADD(DAY, $2, $1)" [a, n])
  | "DATE_ADD", [a, n, p] => some (phrase "DATEADD($3, $2, $1)" [a, n, unitArgument p])
  | "DATETIME_ADD", [a, n, p] | "TIMESTAMP_ADD", [a, n, p] =>
    some (phrase "TIMESTAMPADD($3, $2, $1)" [a, n, unitArgument p])
  | "TIMESTAMP_DIFF", [a, b, p] => some (phrase "TIMESTAMPDIFF($3, $2, $1)" [a, b, unitArgument p])
  | "DATE_TRUNC", [p, a] =>
    let unit := match freeUnitString p with
      | .node (.string s) n xs => Expr.node (.string (DatePart.full .snowflake s)) n xs
      | e => e
    some (phrase "DATE_TRUNC($2, $1)" [a, unit])
  | "TIME_SLICE", a :: n :: p :: r => some (phrase "TIME_SLICE(@1)" (a :: n :: unitString p :: r))
  | "GETDATE", [] | "SYSTIMESTAMP", [] => some (.of (.moment "CURRENT_TIMESTAMP"))
  | "LIKE", [a, b] => some (.of (.binary .like) [a, b])
  | "ILIKE", [a, b] => some (.of (.binary .likeFolded) [a, b])
  | "LIKE", [a, b, c] => some (.of (.binary .escape) [.of (.binary .like) [a, b], c])
  | "ILIKE", [a, b, c] => some (.of (.binary .escape) [.of (.binary .likeFolded) [a, b], c])
  | "ARRAY_HAS", [a, b] => some (phrase "ARRAY_CONTAINS($2, $1)" [a, castOf "VARIANT" b])
  | "UNNEST", a :: _ =>
    some (phrase ("value FROM TABLE(FLATTEN(INPUT => $1)) AS _u(seq, key, path, index, value, "
      ++ "this)") [a])
  | "DATE_PART", [p, x] =>
    let part := match p.form with
      | .column [n] => .of (.words n.text)
      | _ => p
    some (.of .extract [part, x])
  | "ARRAY_GENERATE_RANGE", a :: b :: r =>
    some (callOf "GENERATE_SERIES" (a :: .of (.binary .subtract) [shielded b, numberOf "1"] :: r))
  | "TO_CHAR", [a, f] | "TO_VARCHAR", [a, f] =>
    some (callOf "TO_CHAR" [a, formatArgument .snowflake f])
  | "ARRAY_CONSTRUCT", _ => some (.of (.arrayLiteral "ARRAY") args)
  | "ARRAY_CONTAINS", [a, b] => some (phrase "ARRAY_CONTAINS($2, $1)" [b, a])
  | "TRY_TO_DECIMAL", _ | "TRY_TO_NUMERIC", _ | "TRY_TO_NUMBER", _ =>
    some (phrase "TRY_TO_NUMBER(@1)" args)
  | "BITAND", [a, b] | "BIT_AND", [a, b] => some (.of (.binary .bitAnd) [a, b])
  | "BITOR", [a, b] | "BIT_OR", [a, b] => some (.of (.binary .bitOr) [a, b])
  | "BITXOR", [a, b] | "BIT_XOR", [a, b] => some (.of (.binary .bitXor) [a, b])
  | "BITSHIFTLEFT", [a, b] | "BIT_SHIFTLEFT", [a, b] => some (.of (.binary .shiftLeft) [a, b])
  | "BITSHIFTRIGHT", [a, b] | "BIT_SHIFTRIGHT", [a, b] => some (.of (.binary .shiftRight) [a, b])
  | "BITNOT", [a] | "BIT_NOT", [a] => some (.of (.unary .complement) [a])
  | "LAST_DAY", [a, p] => some (phrase "LAST_DAY($1, $2)" [a, partArgument .snowflake p])
  | _, _ => none

end Function

end QueryFlow.Sql
