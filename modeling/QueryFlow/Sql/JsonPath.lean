import QueryFlow.Sql.Dialect
import QueryFlow.Text.Blank

/-!
Paths into JSON values, such as `$.items[0].name`. Only paths of keys, indexes and stars are read;
anything else is no path and stays the text that it is.
-/

namespace QueryFlow.Sql

inductive JsonStep where
  | key (name : String)
  | index (digits : String)
  | anyKey
  | anyIndex
  /-- A key at any depth. -/
  | deep (name : String)
  deriving Repr, DecidableEq

abbrev JsonPath := List JsonStep

namespace JsonPath

/-- Characters that end a key without quotes. -/
def isMark (c : Char) : Bool := "()[]:,-.?@'\"$*".toList.contains c

/-- A key without quotes, which does not start like a number, and what follows it. -/
def plainKey? (cs : List Char) : Option (String × List Char) :=
  let key := cs.takeWhile fun c => !isMark c
  match key with
  | c :: _ => if Text.isDigit c then none else some (String.ofList key, cs.drop key.length)
  | [] => none

def quotedKey? (quote : Char) (cs : List Char) : Option (String × List Char) :=
  let key := cs.takeWhile (· != quote)
  match cs.drop key.length with
  | _ :: r => some (String.ofList key, r)
  | [] => none

def key? : List Char → Option (JsonStep × List Char)
  | '*' :: r => some (.anyKey, r)
  | '"' :: r => (quotedKey? '"' r).map fun (s, r) => (.key s, r)
  | cs => (plainKey? cs).map fun (s, r) => (.key s, r)

def bracket? (cs : List Char) : Option (JsonStep × List Char) :=
  let inner : Option (JsonStep × List Char) := match cs with
    | '*' :: r => some (.anyIndex, r)
    | c :: r =>
      if c == '"' || c.toNat == 39 then (quotedKey? c r).map fun (s, r) => (.key s, r)
      else
        let (sign, ds) := if c == '-' then ("-", r) else ("", cs)
        let digits := ds.takeWhile Text.isDigit
        if digits.isEmpty then none
        else some (.index (sign ++ String.ofList digits), ds.drop digits.length)
    | [] => none
  match inner with
  | some (step, ']' :: r) => some (step, r)
  | _ => none

/-- The steps of a path without its first sign; `fuel` is at least the number of characters. -/
def steps? : Nat → List Char → Option JsonPath
  | _, [] => some []
  | 0, _ => none
  | fuel + 1, cs =>
    let next : Option (JsonStep × List Char) := match cs with
      | '.' :: '.' :: r => (plainKey? r).map fun (s, r) => (.deep s, r)
      | '.' :: r | ':' :: r => key? r
      | '[' :: r => bracket? r
      | r => key? r
    match next with
    | some (step, r) => (steps? fuel r).map (step :: ·)
    | none => none

def ofText? (s : String) : Option JsonPath :=
  match s.toList with
  | '$' :: r => steps? r.length r
  | cs => steps? cs.length cs

/-- The key may stand in a path without quotes. -/
def isPlainKey (s : String) : Bool :=
  match s.toList with
  | c :: r => (c.isAlpha || c == '_') && r.all fun x => x.isAlphanum || x == '_'
  | [] => false

def stepText : JsonStep → String
  | .key s => if isPlainKey s then "." ++ s else "[\"" ++ s ++ "\"]"
  | .index n => "[" ++ n ++ "]"
  | .anyKey => ".*"
  | .anyIndex => "[*]"
  | .deep s => ".." ++ s

def text (p : JsonPath) : String := "$" ++ String.join (p.map stepText)

/-- A path as text where a key in quotes stands behind a point, not in brackets. -/
def pointedText (p : JsonPath) : String :=
  "$" ++ String.join (p.map fun step =>
    match step with
    | .key s => if isPlainKey s then "." ++ s else ".\"" ++ s ++ "\""
    | step => stepText step)

/-- A path as text without the sign of the outermost value. -/
def innerText (p : JsonPath) : String :=
  let s := String.join (p.map stepText)
  if s.startsWith "." then (s.drop 1).toString else s

/-- The keys and indexes of a path that are not empty, one by one. -/
def segments (p : JsonPath) : List String :=
  (p.map fun
    | .key s => s
    | .index n => n
    | .anyKey | .anyIndex => "*"
    | .deep s => s).filter (!·.isEmpty)

end JsonPath

end QueryFlow.Sql
