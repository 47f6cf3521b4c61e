import QueryFlow.Sql.Dialect
import QueryFlow.Sql.Fault
import QueryFlow.Sql.Lexer.Literal
import QueryFlow.Sql.Token
import QueryFlow.Text.Blank

/-!
From text to tokens. A comment belongs to the token before it when it starts on the line on which
that token ends, and to the token after it otherwise; comments at the end of the text belong to the
last token.
-/

namespace QueryFlow.Sql

open QueryFlow.Text

/-- What stands at one place of a text. -/
inductive Piece where
  | blank
  | comment (text : String)
  /-- A comment that is advice to a server. -/
  | hint (text : String)
  | tokens (lexemes : List Lexeme)

namespace Lexer

/-- Characters that end a word and are symbols by themselves. -/
def symbolChars : List Char :=
  ['(', ')', '[', ']', '\x7b', '\x7d', '&', '^', ':', ',', '-', '.', '/', '%', '!', '+', ';', '*',
   '~', '=', '<', '>', '|', '\\', '?', '@', '\x27', '\x60', '\x22', '#', '$']

def dollarStrings : Dialect → Bool
  | .postgres | .redshift | .duckdb | .clickhouse | .snowflake => true
  | _ => false

/-- The character ends a word and is a symbol by itself. A dollar sign is one only where it starts
strings or parameters. -/
def isSymbol (d : Dialect) (c : Char) : Bool :=
  if c == '$' then dollarStrings d || d.likeHive else symbolChars.contains c

/-- Symbols of more than one character, longer ones first. -/
def operators (d : Dialect) : List String :=
  (if d.likePostgres then ["<<->>", "||/", "|/", "?|", "?&", "#-", "@?", "@@"] else [])
    ++ (if d.likePostgres || d == .duckdb then ["^@", "@>", "<@"] else [])
    ++ (if d == .duckdb then ["**", "//"] else [])
    ++ (if d == .clickhouse then [".:", ".^"] else [])
    ++ (if d.likeMysql || d == .tsql then ["@@"] else [])
    ++ ["?::", "-|-", "<->", "<=>", "->>", "#>>", "~~~", "~~*", "::", "||", "|>", ">=", "<=", "<>",
        "!=", ":=", "->", "=>", "#>", "&&", "??", "~~", "~*", "==", "&<", "&>"]

/-- Symbol characters that a word may hold all the same. -/
def wordSymbols : Dialect → List Char
  | .postgres | .redshift | .snowflake => ['$']
  | .mysql | .starrocks => ['@']
  | .oracle | .tsql => ['@', '#']
  | _ => []

def continuesWord (d : Dialect) (c : Char) : Bool :=
  !isBlank c && (!isSymbol d c || (wordSymbols d).contains c)

def nestsComments : Dialect → Bool
  | .bigquery | .mysql | .starrocks | .oracle | .presto | .trino | .snowflake | .sqlite => false
  | _ => true

/-- The text of a block comment and what follows; where the dialect nests comments, those inside it
are part of it. A comment has to be closed. -/
def commentBody (nests : Bool) : Nat → List Char → Option (List Char × List Char)
  | _, [] => none
  | depth, '*' :: '/' :: r =>
    if depth == 0 then some ([], r)
    else (commentBody nests (depth - 1) r).map fun (s, t) => ('*' :: '/' :: s, t)
  | depth, '/' :: '*' :: r =>
    (commentBody nests (if nests then depth + 1 else depth) r).map fun (s, t) =>
      ('/' :: '*' :: s, t)
  | depth, c :: r => (commentBody nests depth r).map fun (s, t) => (c :: s, t)

def templateComment : List Char → Option (List Char × List Char)
  | [] => none
  | '#' :: '\x7d' :: r => some ([], r)
  | c :: r => (templateComment r).map fun (s, t) => (c :: s, t)

def lineBody (cs : List Char) : List Char × List Char :=
  cs.span fun c => c != '\n' && c != '\r'

/-- Dialects in which a comment that starts with a plus is advice to a server. -/
def readsHints : Dialect → Bool
  | .ansi | .mysql | .starrocks | .oracle | .hive | .spark | .databricks => true
  | _ => false

/-- A string between two equal tags of dollar signs, the first of which has just begun. -/
def dollarString? (d : Dialect) (cs : List Char) : Option (List Char × List Char) :=
  let (tag, rest) := cs.span (· != '$')
  match rest with
  | '$' :: body =>
    if tag.any isBlank || (!tag.isEmpty && (tag.all isDigit || d == .snowflake)) then none
    else taggedBody d ('$' :: tag ++ ['$']) body
  | _ => none

/-- A symbol at the start of a text: the longest operator, or one character. -/
def symbolPiece (d : Dialect) (cs : List Char) : Piece × List Char :=
  if d == .oracle && "^=".toList.isPrefixOf cs then (.tokens [.symbol "<>"], cs.drop 2)
  else match (operators d).find? fun o => o.toList.isPrefixOf cs with
    | some o => (.tokens [.symbol o], cs.drop o.length)
    | none => (.tokens [.symbol (String.ofList (cs.take 1))], cs.drop 1)

def quotedPiece (quote : String) (make : String → Lexeme) :
    Option (List Char × List Char) → Except SyntaxError (Piece × List Char)
  | some (s, t) => .ok (.tokens [make (String.ofList s)], t)
  | none => .error (.unterminated quote)

def wordPiece (d : Dialect) (cs : List Char) : Piece × List Char :=
  let (w, t) := cs.span (continuesWord d)
  let text := String.ofList w
  (.tokens [.word text (upper text)], t)

/-- A number in base sixteen or two, whose first two characters say so. A text that is no such
number is a quoted identifier. -/
def basedPiece (d : Dialect) (base : Nat) (mark : LiteralMark) (cs : List Char) :
    Piece × List Char :=
  let (tail, t) := (cs.drop 2).span fun c => !isBlank c && !isSymbol d c
  let whole := cs.take 2 ++ tail
  if tail.isEmpty || !readsInBase base whole then (.tokens [.quoted (String.ofList whole)], t)
  else (.tokens [.marked mark (String.ofList tail)], t)

/-- A number that starts here. After a parameter mark it has no fraction. -/
def numberPiece (d : Dialect) (afterMark : Bool) (cs : List Char) : Piece × List Char :=
  let base? := match cs with
    | '0' :: c :: _ =>
      if c.toLower == 'x' && readsHexadecimal d then some (16, LiteralMark.hexadecimal)
      else if c.toLower == 'b' && readsBits d then some (2, LiteralMark.bits)
      else none
    | _ => none
  match base? with
  | some (base, mark) => basedPiece d base mark cs
  | none =>
    let (body, t) := numberBody d {point := afterMark} cs
    let number := Lexeme.number (String.ofList body)
    let tail := t.takeWhile fun c => !isBlank c && !isSymbol d c
    match (numberSuffixes d).lookup (upper (String.ofList tail)) with
    | some type =>
      (.tokens [number, .symbol "::", .word (String.ofList tail) type], t.drop tail.length)
    | none =>
      match t with
      | c :: _ =>
        if d.digitWords && continuesWord d c then wordPiece d cs else (.tokens [number], t)
      | [] => (.tokens [number], t)

/-- A string with a mark in front of it. Digits of another base have to be such digits. -/
def markedPiece (d : Dialect) (mark : LiteralMark) (closing cs : List Char) :
    Except SyntaxError (Piece × List Char) :=
  match markedBody d mark closing cs with
  | none => .error (.unterminated (String.ofList closing))
  | some (s, t) =>
    let base? := match mark with
      | .hexadecimal => some 16
      | .bits => some 2
      | _ => none
    match base? with
    | some base =>
      if s.isEmpty || readsInBase base s then .ok (.tokens [.marked mark (String.ofList s)], t)
      else .error (.digits base)
    | none => .ok (.tokens [.marked mark (String.ofList s)], t)

/-- What the tokens in front tell about the next one. -/
structure Situation where
  /-- The token before is the mark of a parameter. -/
  afterMark : Bool
  /-- The token before is a word behind which advice to a server may stand. -/
  beforeHint : Bool

def piece (d : Dialect) (now : Situation) (cs : List Char) :
    Except SyntaxError (Piece × List Char) :=
  match cs with
  | [] => .ok (.blank, [])
  | '-' :: '-' :: r =>
    let (s, t) := lineBody r
    .ok (.comment (String.ofList s), t)
  | '/' :: '*' :: r =>
    match commentBody (nestsComments d) 0 r with
    | some (s, t) =>
      match s with
      | '+' :: s' =>
        if readsHints d then
          .ok (if now.beforeHint then .hint (String.ofList s') else .comment (String.ofList s'), t)
        else .ok (.comment (String.ofList s), t)
      | _ => .ok (.comment (String.ofList s), t)
    | none => .error (.unterminated "*/")
  | '\x7b' :: '#' :: r =>
    match templateComment r with
    | some (s, t) => .ok (.comment (String.ofList s), t)
    | none => .error (.unterminated "#\x7d")
  | c :: r =>
    if isBlank c then .ok (.blank, r)
    else if (c == '#' && d.hashComments && r.head? != some '>')
      || (d.slashComments && "//".toList.isPrefixOf cs) then
      let (s, t) := lineBody (if c == '#' then r else r.drop 1)
      .ok (.comment (String.ofList s), t)
    else if isDigit c then .ok (numberPiece d now.afterMark cs)
    else match chosenQuote? d cs with
    | some (closing, rest) => quotedPiece "'" .string (taggedBody d closing rest)
    | none =>
    match markAt? d cs with
    | some (mark, closing, rest) => markedPiece d mark closing rest
    | none =>
    match (stringQuotes d).find? fun q => q.isPrefixOf cs with
    | some q =>
      quotedPiece (String.ofList q) .string (stringBody d q (cs.drop q.length))
    | none =>
      if c.toNat == 34 then quotedPiece "\"" .quoted (identifierBody d c r)
      else if c.toNat == 96 && d.takesBackQuotes then quotedPiece "`" .quoted (identifierBody d c r)
      else if c == '[' && d.takesBrackets then quotedPiece "]" .quoted (identifierBody d ']' r)
      else if c == '$' && dollarStrings d then
        match dollarString? d r with
        | some (s, t) => .ok (.tokens [.marked .raw (String.ofList s)], t)
        | none => .ok (.tokens [.symbol "$"], r)
      else if isSymbol d c then .ok (symbolPiece d cs)
      else .ok (wordPiece d cs)

/-- The number of line ends in a text; a return directly before a line feed does not count. -/
def lineEnds : List Char → Nat
  | [] => 0
  | [c] => if c == '\n' || c == '\r' then 1 else 0
  | '\r' :: '\n' :: r => 1 + lineEnds r
  | c :: r => (if c == '\n' || c == '\r' then 1 else 0) + lineEnds r

/-- Tokens read so far, latest first, with the comments that wait for the next token. -/
structure Progress where
  tokens : List Token := []
  waiting : List String := []
  line : Nat := 0
  /-- The line on which the latest token, or a comment attached to it, ends. -/
  tokenLine : Option Nat := none

namespace Progress

def attach (notes : List String) : List Token → List Token
  | [] => []
  | t :: r => { t with notes := t.notes ++ notes } :: r

/-- Take in one piece that ends `ends` lines further down. -/
def step (p : Progress) (ends : Nat) : Piece → Progress
  | .blank => { p with line := p.line + ends }
  | .comment text =>
    if p.tokenLine == some p.line then
      { p with
        tokens := attach (p.waiting ++ [text]) p.tokens
        waiting := []
        line := p.line + ends
        tokenLine := some (p.line + ends) }
    else { p with waiting := p.waiting ++ [text], line := p.line + ends }
  | .hint text =>
    { tokens := ⟨.hint, p.waiting ++ [text]⟩ :: p.tokens
      waiting := []
      line := p.line + ends
      tokenLine := some (p.line + ends) }
  | .tokens [] => p
  | .tokens (l :: ls) =>
    { tokens := (ls.map fun l => ⟨l, []⟩).reverse ++ ⟨l, p.waiting⟩ :: p.tokens
      waiting := []
      line := p.line + ends
      tokenLine := some (p.line + ends) }

def finish (d : Dialect) (p : Progress) : List Token :=
  joinWords d (attach p.waiting p.tokens).reverse

/-- What the latest token tells about the next one. -/
def situation (p : Progress) : Situation :=
  match p.tokens with
  | t :: _ =>
    { afterMark := t.isSymbol "@" || t.isSymbol "$"
      beforeHint := ["SELECT", "INSERT", "UPDATE", "DELETE"].any fun w => t.isWord w }
  | [] => ⟨false, false⟩

end Progress

/-- Read a text piece by piece; `fuel` is at least its length. -/
def scan (d : Dialect) : Nat → Progress → List Char → Except SyntaxError (List Token)
  | 0, p, _ => .ok (p.finish d)
  | fuel + 1, p, cs =>
    if cs.isEmpty then .ok (p.finish d)
    else
      match piece d p.situation cs with
      | .error e => .error e
      | .ok (x, rest) =>
        scan d fuel (p.step (lineEnds (cs.take (cs.length - rest.length))) x) rest

end Lexer

def tokens (d : Dialect) (text : String) : Except SyntaxError (List Token) :=
  Lexer.scan d (text.toList.length + 1) {} text.toList

end QueryFlow.Sql
