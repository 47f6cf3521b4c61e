import QueryFlow.Json.Basic
import QueryFlow.Decimal.Shortest

/-!
JSON text in ASCII: on one line, or indented by two blanks a level. Empty lists and objects have
no inner lines.
-/

namespace QueryFlow.Json

def hexUnit (n : Nat) : List Char :=
  let ds := Nat.toDigits 16 n
  List.replicate (4 - ds.length) '0' ++ ds

/-- One character inside a JSON string. Characters beyond the basic plane are two units. -/
def escapeChar (c : Char) : List Char :=
  let n := c.toNat
  if n == 0x22 then ['\\', c]
  else if c == '\\' then ['\\', '\\']
  else if n == 10 then ['\\', 'n']
  else if n == 13 then ['\\', 'r']
  else if n == 9 then ['\\', 't']
  else if n == 12 then ['\\', 'f']
  else if n == 8 then ['\\', 'b']
  else if 32 ≤ n && n < 127 then [c]
  else if n < 0x10000 then '\\' :: 'u' :: hexUnit n
  else
    let m := n - 0x10000
    '\\' :: 'u' :: hexUnit (0xD800 + m / 0x400) ++ '\\' :: 'u' :: hexUnit (0xDC00 + m % 0x400)

def quote (s : String) : String :=
  "\"" ++ String.ofList (s.toList.flatMap escapeChar) ++ "\""

mutual

/-- The value on one line, with a blank after each comma and colon. -/
def compact : Json → String
  | .null => "null"
  | .bool b => if b then "true" else "false"
  | .int n => toString n
  | .float x => Decimal.floatText x
  | .string s => quote s
  | .array xs => "[" ++ ", ".intercalate (compactItems xs) ++ "]"
  | .object fs => "\x7b" ++ ", ".intercalate (compactFields fs) ++ "\x7d"

def compactItems : List Json → List String
  | [] => []
  | x :: xs => compact x :: compactItems xs

def compactFields : List (String × Json) → List String
  | [] => []
  | (k, v) :: fs => (quote k ++ ": " ++ compact v) :: compactFields fs

end

/-- Lines between brackets, each indented one level deeper than the brackets. -/
def block (opening closing : String) (level : Nat) (lines : List String) : String :=
  if lines.isEmpty then opening ++ closing
  else
    let margin (n : Nat) := "\n" ++ String.ofList (List.replicate (2 * n) ' ')
    opening ++ margin (level + 1) ++ ("," ++ margin (level + 1)).intercalate lines
      ++ margin level ++ closing

mutual

/-- The value on several lines, as the inner part of a text indented to this level. -/
def indentedAt (level : Nat) : Json → String
  | .array xs => block "[" "]" level (indentedItems (level + 1) xs)
  | .object fs => block "\x7b" "\x7d" level (indentedFields (level + 1) fs)
  | j => compact j

def indentedItems (level : Nat) : List Json → List String
  | [] => []
  | x :: xs => indentedAt level x :: indentedItems level xs

def indentedFields (level : Nat) : List (String × Json) → List String
  | [] => []
  | (k, v) :: fs => (quote k ++ ": " ++ indentedAt level v) :: indentedFields level fs

end

def indented (j : Json) : String := indentedAt 0 j

end QueryFlow.Json
