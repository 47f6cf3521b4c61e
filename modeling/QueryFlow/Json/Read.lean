import QueryFlow.Json.Basic
import QueryFlow.Decimal.Read

/-!
Reading JSON text. Besides the standard values, `NaN`, `Infinity` and `-Infinity` are numbers.
A text that is no JSON is refused with the place, counted in characters, where reading stopped.
-/

namespace QueryFlow.Json

open QueryFlow.Text

inductive Cause where
  | value
  | propertyName
  | colon
  | comma
  | unterminated
  | control
  | escape
  | unicodeEscape
  | extraData
  | byteOrderMark
  /-- A whole number has more digits than are read. -/
  | digits
  deriving Repr, DecidableEq

/-- The place and the reason where reading stopped. -/
structure Fault where
  cause : Cause
  offset : Nat
  deriving Repr, DecidableEq

namespace Fault

def message (f : Fault) : String :=
  let what := match f.cause with
    | .value => "Expecting value"
    | .propertyName => "Expecting property name enclosed in double quotes"
    | .colon => "Expecting ':' delimiter"
    | .comma => "Expecting ',' delimiter"
    | .unterminated => "Unterminated string starting at"
    | .control => "Invalid control character at"
    | .escape => "Invalid \\escape"
    | .unicodeEscape => "Invalid \\uXXXX escape"
    | .extraData => "Extra data"
    | .digits => "Too many digits at"
    | .byteOrderMark => "Unexpected UTF-8 BOM (decode using utf-8-sig)"
  what ++ ": char " ++ toString f.offset

end Fault

/-- What is left of a text, and how many characters stand before it. -/
structure Cursor where
  offset : Nat
  rest : List Char

namespace Cursor

def drop (n : Nat) (c : Cursor) : Cursor := ⟨c.offset + n, c.rest.drop n⟩

/-- The cursor behind the blanks of JSON: space, tab and the two line ends. -/
def skipBlanks (c : Cursor) : Cursor :=
  c.drop (c.rest.takeWhile fun x => x == ' ' || x == '\t' || x == '\n' || x == '\r').length

def fault (c : Cursor) (cause : Cause) : Fault := ⟨cause, c.offset⟩

end Cursor

def hexDigit? (c : Char) : Option Nat :=
  if '0' ≤ c && c ≤ '9' then some (c.toNat - 48)
  else if 'a' ≤ c && c ≤ 'f' then some (c.toNat - 87)
  else if 'A' ≤ c && c ≤ 'F' then some (c.toNat - 55)
  else none

/-- The value of four hexadecimal digits at the start of a text. -/
def hexUnit? : List Char → Option Nat
  | a :: b :: c :: d :: _ => do
    let a ← hexDigit? a
    let b ← hexDigit? b
    let c ← hexDigit? c
    let d ← hexDigit? d
    return ((a * 16 + b) * 16 + c) * 16 + d
  | _ => none

/-- The second half of a surrogate pair, written as an escape of its own. -/
def lowSurrogate? : List Char → Option Nat
  | '\\' :: 'u' :: r =>
    (hexUnit? r).bind fun n => if 0xDC00 ≤ n && n ≤ 0xDFFF then some n else none
  | _ => none

def shortEscape? (c : Char) : Option Char :=
  if c.toNat == 0x22 || c == '\\' || c == '/' then some c
  else if c == 'b' then some (Char.ofNat 8)
  else if c == 'f' then some (Char.ofNat 12)
  else if c == 'n' then some '\n'
  else if c == 'r' then some '\r'
  else if c == 't' then some '\t'
  else none

/-- The second half behind a first half, if there is one. -/
def partner? (n : Nat) (rest : List Char) : Option Nat :=
  if 0xD800 ≤ n && n ≤ 0xDBFF then lowSurrogate? rest else none

/-- The number of the character that two halves make. -/
def pairCode (high low : Nat) : Nat := 0x10000 + (high - 0xD800) * 0x400 + (low - 0xDC00)

/-- The number is that of half of a surrogate pair, which is no character. -/
def isHalf (n : Nat) : Bool := 0xD800 ≤ n && n ≤ 0xDFFF

/-- Where the characters begin that stand for halves. They are the last of all characters. -/
def standInStart : Nat := 0x10F800

/-- The character that stands for half of a surrogate pair. Different halves have different ones. -/
def standIn (half : Nat) : Char := Char.ofNat (standInStart + (half - 0xD800))

/-- The character stands for half of a surrogate pair. -/
def isStandIn (c : Char) : Bool := standInStart ≤ c.toNat

/-- The numbers of the characters that a text with escapes writes. A half without its partner has
its own number, and escapes of one letter are left out. -/
def codesFrom : List Char → List Nat
  | [] => []
  | ['\\'] => []
  | '\\' :: 'u' :: r =>
    match hexUnit? r with
    | some n =>
      match partner? n (r.drop 4) with
      | some low => pairCode n low :: codesFrom (r.drop 10)
      | none => n :: codesFrom (r.drop 4)
    | none => codesFrom r
  | '\\' :: _ :: r => codesFrom r
  | c :: r => c.toNat :: codesFrom r
termination_by cs => cs.length
decreasing_by all_goals (simp only [List.length_cons, List.length_drop]; omega)

/-- A JSON text writes half of a surrogate pair without its partner. -/
def holdsHalfCharacter (s : String) : Bool := (codesFrom s.toList).any isHalf

/-- The characters of a string up to its closing quote. `start` is where its first quote stands;
a surrogate without its partner reads as the character that stands for it. -/
def readChars (start : Nat) : Nat → List Char → Cursor → Except Fault (String × Cursor)
  | 0, _, _ => .error ⟨.unterminated, start⟩
  | fuel + 1, read, at' =>
    match at'.rest with
    | [] => .error ⟨.unterminated, start⟩
    | c :: r =>
      if c.toNat == 0x22 then .ok (String.ofList read.reverse, at'.drop 1)
      else if c.toNat < 32 then .error (at'.fault .control)
      else if c != '\\' then readChars start fuel (c :: read) (at'.drop 1)
      else match r with
        | [] => .error ⟨.unterminated, start⟩
        | 'u' :: digits =>
          if digits.length ≤ 4 then .error ((at'.drop 1).fault .unicodeEscape)
          else match hexUnit? digits with
            | none => .error ((at'.drop 1).fault .unicodeEscape)
            | some n =>
              match partner? n (digits.drop 4) with
              | some low =>
                readChars start fuel (Char.ofNat (pairCode n low) :: read) (at'.drop 12)
              | none =>
                let x := if isHalf n then standIn n else Char.ofNat n
                readChars start fuel (x :: read) (at'.drop 6)
        | e :: _ =>
          match shortEscape? e with
          | some x => readChars start fuel (x :: read) (at'.drop 2)
          | none => .error (at'.fault .escape)

def readString (c : Cursor) : Except Fault (String × Cursor) :=
  readChars c.offset (c.rest.length + 1) [] (c.drop 1)

/-- The length of an exponent at the start of a text; zero when there is none. -/
def exponentLength : List Char → Nat
  | e :: r =>
    if e == 'e' || e == 'E' then
      let sign := match r with
        | '+' :: _ => 1
        | '-' :: _ => 1
        | _ => 0
      let digits := ((r.drop sign).takeWhile isDigit).length
      if digits == 0 then 0 else 1 + sign + digits
    else 0
  | [] => 0

/-- The length of a fraction at the start of a text; zero when there is none. -/
def fractionLength : List Char → Nat
  | '.' :: r =>
    let digits := (r.takeWhile isDigit).length
    if digits == 0 then 0 else 1 + digits
  | _ => 0

/-- A number at the cursor. A whole number stays whole unless it has a fraction or an exponent. -/
def readNumber (c : Cursor) : Except Fault (Json × Cursor) :=
  let (negative, rest) := match c.rest with
    | '-' :: r => (true, r)
    | r => (false, r)
  let whole := match rest with
    | '0' :: _ => ['0']
    | r => r.takeWhile isDigit
  if whole.isEmpty then .error (c.fault .value)
  else
    let behind := rest.drop whole.length
    let part := fractionLength behind
    let power := exponentLength (behind.drop part)
    let sign := if negative then 1 else 0
    let next := c.drop (sign + whole.length + part + power)
    if part + power == 0 && whole.length > Decimal.digitLimit then .error (c.fault .digits)
    else if part + power == 0 then
      let n : Int := digitsValue whole
      .ok (.int (if negative then -n else n), next)
    else
      let x := (Decimal.unsigned? (rest.take (whole.length + part + power))).getD 0
      .ok (.float (if negative then -x else x), next)

def words : List (String × Json) :=
  [("null", .null), ("true", .bool true), ("false", .bool false), ("NaN", .float (0.0 / 0.0)),
   ("Infinity", .float (1.0 / 0.0)), ("-Infinity", .float (-1.0 / 0.0))]

/-- A value that holds no other value, at the cursor. -/
def readScalar (c : Cursor) : Except Fault (Json × Cursor) :=
  match words.find? fun (w, _) => w.toList.isPrefixOf c.rest with
  | some (w, j) => .ok (j, c.drop w.length)
  | none => readNumber c

mutual

/-- A value at the cursor; `fuel` bounds the nesting and the number of items. -/
def readValue : Nat → Cursor → Except Fault (Json × Cursor)
  | 0, c => .error (c.fault .value)
  | fuel + 1, c =>
    match c.rest with
    | [] => .error (c.fault .value)
    | x :: _ =>
      if x.toNat == 0x22 then do
        let (s, next) ← readString c
        return (.string s, next)
      else if x == '[' then
        let inner := (c.drop 1).skipBlanks
        match inner.rest with
        | ']' :: _ => .ok (.array [], inner.drop 1)
        | _ => readItems fuel [] inner
      else if x == '\x7b' then
        let inner := (c.drop 1).skipBlanks
        match inner.rest with
        | '\x7d' :: _ => .ok (.object [], inner.drop 1)
        | _ => readFields fuel [] inner
      else readScalar c

def readItems : Nat → List Json → Cursor → Except Fault (Json × Cursor)
  | 0, _, c => .error (c.fault .value)
  | fuel + 1, read, c => do
    let (item, next) ← readValue fuel c
    let next := next.skipBlanks
    match next.rest with
    | ',' :: _ => readItems fuel (item :: read) (next.drop 1).skipBlanks
    | ']' :: _ => return (.array (item :: read).reverse, next.drop 1)
    | _ => throw (next.fault .comma)

def readFields : Nat → List (String × Json) → Cursor → Except Fault (Json × Cursor)
  | 0, _, c => .error (c.fault .propertyName)
  | fuel + 1, read, c => do
    unless (c.rest.head?.map Char.toNat) == some 0x22 do throw (c.fault .propertyName)
    let (key, next) ← readString c
    let next := next.skipBlanks
    unless next.rest.head? == some ':' do throw (next.fault .colon)
    let (value, next) ← readValue fuel (next.drop 1).skipBlanks
    let read := Keyed.assign key value read
    let next := next.skipBlanks
    match next.rest with
    | ',' :: _ => readFields fuel read (next.drop 1).skipBlanks
    | '\x7d' :: _ => return (.object read, next.drop 1)
    | _ => throw (next.fault .comma)

end

def read (s : String) : Except Fault Json := do
  let cs := s.toList
  if cs.head?.map Char.toNat == some 0xFEFF then throw ⟨.byteOrderMark, 0⟩
  let (j, next) ← readValue (2 * cs.length + 2) (Cursor.skipBlanks ⟨0, cs⟩)
  let next := next.skipBlanks
  unless next.rest.isEmpty do throw (next.fault .extraData)
  return j

end QueryFlow.Json
