import QueryFlow.Sql.Dialect

/-!
The text of a string literal: its quotes, and what stands for a quote or a control character inside.
-/

namespace QueryFlow.Sql.Literal

def quote (d : Dialect) (s : String) : String :=
  let inner (c : Char) : List Char :=
    if c.toNat == 39 then [if d.writesBackslashQuote then '\\' else c, c]
    else if d.backslashEscapes then
      if c == '\\' then ['\\', '\\']
      else if c == '\n' then ['\\', 'n']
      else if c == '\r' then ['\\', 'r']
      else if c == '\t' then ['\\', 't']
      else if c.toNat == 7 then ['\\', 'a']
      else if c.toNat == 8 then ['\\', 'b']
      else if c.toNat == 12 then ['\\', 'f']
      else if c.toNat == 11 then ['\\', 'v']
      else if c.toNat == 0 && (d.likeMysql || d == .clickhouse) then ['\\', '0']
      else if c.toNat == 26 && d.likeMysql then ['\\', 'Z']
      else [c]
    else [c]
  "'" ++ String.ofList (s.toList.flatMap inner) ++ "'"

end QueryFlow.Sql.Literal
