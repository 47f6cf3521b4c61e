import QueryFlow.Sql.Dialect
import QueryFlow.Sql.Token
import QueryFlow.Text.Blank

/-!
The inside of literals: how the text of a string runs up to its closing mark, which letters in front
of a quote change its meaning, and how far a number reaches.
-/

namespace QueryFlow.Sql.Lexer

open QueryFlow.Text

/-- The quotes around strings, longer ones first. -/
def stringQuotes (d : Dialect) : List (List Char) :=
  (if d == .bigquery then ["\x22\x22\x22".toList, "\x27\x27\x27".toList] else [])
    ++ [['\x27']] ++ (if d.onlyBackQuotes then [['\x22']] else [])

/-- Characters that let a closing quote stand inside a string. -/
def stringEscapes (d : Dialect) : List Char :=
  (if d.backslashEscapes then ['\\'] else [])
    ++ (if d.doubledQuotes then ['\x27'] else [])
    ++ (if d.likeMysql then ['\x22'] else [])

def control? (d : Dialect) (c : Char) : Option Char :=
  match c with
  | 'a' => some (Char.ofNat 7)
  | 'b' => some (Char.ofNat 8)
  | 'f' => some (Char.ofNat 12)
  | 'n' => some '\n'
  | 'r' => some '\r'
  | 't' => some '\t'
  | 'v' => some (Char.ofNat 11)
  | '\\' => some '\\'
  | '0' => if d.likeMysql || d == .clickhouse then some (Char.ofNat 0) else none
  | 'Z' => if d.likeMysql then some (Char.ofNat 26) else none
  | _ => none

/-- The value of a digit in bases up to sixteen. -/
def digitIn? (base : Nat) (c : Char) : Option Nat :=
  let n := c.toNat
  let value :=
    if 48 ≤ n && n ≤ 57 then some (n - 48)
    else if 97 ≤ n && n ≤ 102 then some (n - 87)
    else if 65 ≤ n && n ≤ 70 then some (n - 55)
    else none
  value.filter (· < base)

def valueIn? (base : Nat) (cs : List Char) : Option Nat :=
  if cs.isEmpty then none
  else cs.foldl (fun n c => match n, digitIn? base c with
    | some n, some v => some (n * base + v)
    | _, _ => none) (some 0)

/-- A character given by its number behind a backslash, and how many characters that takes. -/
def numbered? (cs : List Char) : Option (Char × Nat) :=
  let digits (base count skipped : Nat) : Option (Char × Nat) :=
    let ds := (cs.drop skipped).take count
    if ds.length == count then
      (valueIn? base ds).map fun n => (Char.ofNat n, skipped + count)
    else none
  match cs with
  | 'x' :: _ | 'X' :: _ => digits 16 2 1
  | 'u' :: _ => digits 16 4 1
  | 'U' :: _ => digits 16 8 1
  | c :: _ => if '0' ≤ c && c ≤ '3' then digits 8 3 0 else none
  | [] => none

/-- What a backslash and the characters behind it mean together, and how many of those it takes. -/
def backslashed? (d : Dialect) (cs : List Char) : Option (Char × Nat) :=
  match cs with
  | [] => none
  | c :: _ =>
    match control? d c with
    | some x => some (x, 1)
    | none => if d == .bigquery then numbered? cs else none

structure Reading where
  /-- Characters that let the closing mark, or one another, stand for itself. -/
  escapes : List Char
  /-- A backslash and a letter may be a control character. -/
  controls : Bool
  /-- A backslash may be dropped in front of any character without a meaning of its own. -/
  dropsBackslash : Bool
  closing : List Char

/-- The text of a literal up to its closing mark, and what follows; `fuel` is at least the length.
-/
def Reading.body (d : Dialect) (w : Reading) : Nat → List Char → Option (List Char × List Char)
  | 0, _ => none
  | _, [] => none
  | fuel + 1, c :: r =>
    let rest (xs : List Char) (r : List Char) :=
      (w.body d fuel r).map fun (s, t) => (xs ++ s, t)
    let named := if w.controls && c == '\\' then backslashed? d r else none
    match named with
    | some (x, n) => rest [x] (r.drop n)
    | none =>
      let isQuote (x : Char) := (stringQuotes d).contains [x]
      match r with
      | e :: r' =>
        let free :=
          w.dropsBackslash && c == '\\' && !(['0', 'b', 'n', 'r', 't', 'Z', '%', '_'].contains e)
        if w.escapes.contains c && ([e] == w.closing || w.escapes.contains e || free)
            && (!isQuote c || c == e) then
          if [e] == w.closing || (free && c != e) then rest [e] r' else rest [c, e] r'
        else if w.closing.isPrefixOf (c :: r) then some ([], (c :: r).drop w.closing.length)
        else rest [c] r
      | [] => if w.closing == [c] then some ([], []) else none

def stringBody (d : Dialect) (closing cs : List Char) : Option (List Char × List Char) :=
  Reading.body d ⟨stringEscapes d, d.backslashEscapes, d.likeMysql, closing⟩ cs.length cs

def identifierBody (d : Dialect) (closing : Char) (cs : List Char) :
    Option (List Char × List Char) :=
  Reading.body d ⟨[closing], false, false, [closing]⟩ cs.length cs

/-- The text of a string between two equal tags, and what follows. -/
def taggedBody (d : Dialect) (closing cs : List Char) : Option (List Char × List Char) :=
  Reading.body d ⟨[], d.backslashEscapes && d != .snowflake, false, closing⟩ cs.length cs

def markedBody (d : Dialect) (mark : LiteralMark) (closing cs : List Char) :
    Option (List Char × List Char) :=
  match mark with
  | .raw =>
    let escapes := if d == .bigquery then stringEscapes d else []
    -- a backslash keeps the quote behind it inside, and stays
    if escapes.isEmpty then Reading.body d ⟨[], false, false, closing⟩ cs.length cs
    else Reading.body d ⟨escapes, false, false, closing⟩ cs.length cs
  | .bytes =>
    let escapes := if d == .bigquery then ['\\'] else ['\x27', '\\']
    Reading.body d ⟨escapes, d.backslashEscapes, false, closing⟩ cs.length cs
  | _ => stringBody d closing cs

/-- Letters in front of a quote, and what they make of the string. -/
def literalMarks (d : Dialect) : List (List Char × LiteralMark) :=
  [(['n'], .national)]
    ++ (match d with
        | .postgres =>
          [(['e'], .bytes), (['b'], .bits), (['x'], .hexadecimal), (['u', '&'], .unicode)]
        | .redshift => [(['e'], .bytes), (['u', '&'], .unicode)]
        | .duckdb => [(['e'], .bytes)]
        | .mysql | .starrocks => [(['b'], .bits), (['x'], .hexadecimal)]
        | .bigquery => [(['b'], .bytes), (['r'], .raw)]
        | .sqlite | .snowflake => [(['x'], .hexadecimal)]
        | .presto | .trino => [(['x'], .hexadecimal), (['u', '&'], .unicode)]
        | .spark | .databricks => [(['x'], .hexadecimal), (['r'], .raw)]
        | .oracle => [(['u'], .unicode)]
        | _ => [])

/-- A mark with the quote behind it: the mark, the closing quote, and what follows. -/
def markAt? (d : Dialect) (cs : List Char) : Option (LiteralMark × List Char × List Char) :=
  (literalMarks d).findSome? fun (letters, mark) =>
    if letters.isPrefixOf ((cs.take letters.length).map Char.toLower) then
      let rest := cs.drop letters.length
      let quotes := if mark == .hexadecimal || mark == .bits then [['\x27']] else stringQuotes d
      (quotes.find? fun q => q.isPrefixOf rest).map fun q => (mark, q, rest.drop q.length)
    else none

/-- A quote with a delimiter of its own behind the letter `q`: the closing mark, and what follows.
-/
def chosenQuote? (d : Dialect) (cs : List Char) : Option (List Char × List Char) :=
  match cs with
  | q :: '\x27' :: c :: r =>
    if d == .oracle && q.toLower == 'q' then
      let closing := match c with
        | '[' => ']'
        | '(' => ')'
        | '<' => '>'
        | '\x7b' => '\x7d'
        | c => c
      some ([closing, '\x27'], r)
    else none
  | _ => none

/-- Digits of a base with single underscores between them. -/
def isNumeral (base : Nat) : List Char → Bool
  | [] => false
  | [c] => (digitIn? base c).isSome
  | c :: '_' :: r => (digitIn? base c).isSome && isNumeral base r
  | c :: r => (digitIn? base c).isSome && isNumeral base r

/-- The text reads as a number in the base: blanks around it, a sign and the letter of the base in
front are allowed. -/
def readsInBase (base : Nat) (s : List Char) : Bool :=
  let cs := stripRight (stripLeft s)
  let cs := match cs with
    | '+' :: r | '-' :: r => r
    | r => r
  let letter := if base == 16 then 'x' else 'b'
  let cs := match cs with
    | '0' :: c :: '_' :: r => if c.toLower == letter then r else cs
    | '0' :: c :: r => if c.toLower == letter then r else cs
    | cs => cs
  isNumeral base cs

/-- The dialect writes whole numbers in base sixteen with a zero and the letter `x` in front. -/
def readsHexadecimal : Dialect → Bool
  | .bigquery | .clickhouse | .mysql | .starrocks | .postgres | .sqlite | .presto | .trino
  | .snowflake | .spark | .databricks | .tsql => true
  | _ => false

/-- The dialect writes whole numbers in base two with a zero and the letter `b` in front. -/
def readsBits : Dialect → Bool
  | .clickhouse | .mysql | .starrocks | .postgres => true
  | _ => false

/-- Letters behind a number that say its type, with that type. -/
def numberSuffixes (d : Dialect) : List (String × String) :=
  if d.likeHive then
    [("L", "BIGINT"), ("S", "SMALLINT"), ("Y", "TINYINT"), ("D", "DOUBLE"), ("F", "FLOAT"),
     ("BD", "DECIMAL")]
  else []

/-- The parts of a number that have been read: its point, the letter of its exponent, and the sign
behind that. -/
structure NumberState where
  point : Bool := false
  power : Bool := false
  sign : Bool := false

/-- The digits of a number after its first one, and what follows. -/
def numberBody (d : Dialect) (st : NumberState) : List Char → List Char × List Char
  | [] => ([], [])
  | c :: r =>
    let keep (st : NumberState) :=
      let (s, t) := numberBody d st r
      (c :: s, t)
    if isDigit c then keep st
    else if c == '.' && !st.point then keep { st with point := true }
    else if (c == '-' || c == '+') && st.power && !st.sign then
      if (r.head?.map isDigit).getD false then keep { st with sign := true } else ([], c :: r)
    else if (c == 'e' || c == 'E') && !st.power then keep { st with power := true }
    else if c == '_' && d.underscoredNumbers then
      numberBody d st r
    else ([], c :: r)

end QueryFlow.Sql.Lexer
