import QueryFlow.Sql.Parser.Names

/-!
The readers that a grammar rule may call for what stands inside it. A rule is written against this
record, and the record is closed by counting down from the number of tokens: every inner reader
starts behind at least one token that the rule has read.
-/

namespace QueryFlow.Sql

/-- Readers for nested parts of SQL. -/
structure Grammar where
  dialect : Dialect
  /-- `PRIOR` in front of an operand means the row above. -/
  readsPrior : Bool := false
  /-- An expression in which `PRIOR` means the row above. -/
  priorCondition : Parse (Option Expr)
  /-- An expression of any kind, without an alias. -/
  condition : Parse (Option Expr)
  /-- An expression above comparisons of equality. -/
  equality : Parse (Option Expr)
  /-- An expression without comparisons. -/
  bitwise : Parse (Option Expr)
  /-- Sums of products. -/
  term : Parse (Option Expr)
  /-- An operand with the operators in front of it. -/
  unary : Parse (Option Expr)
  /-- An expression that may have an alias. -/
  expression : Parse (Option Expr)
  /-- A query that starts with a keyword. -/
  query : Parse (Option Expr)
  /-- A query, which may stand in parentheses, without set operators behind it. -/
  plainQuery : Parse (Option Expr)
  /-- A query or a FROM item in parentheses. -/
  itemQuery : Parse (Option Expr)
  /-- A FROM item. -/
  item : Parse (Option Expr)
  /-- Joins behind a FROM item. -/
  joins : Parse (List Expr)
  /-- Set operators and more queries behind a query. -/
  setOperations : Expr → Parse Expr
  /-- Clauses behind a query. -/
  clauses : Expr → Parse Expr
  /-- A whole statement. -/
  statement : Parse (Option Expr)
  /-- A data type; the flag tells whether a column of a table is being declared. -/
  dataType : Bool → Parse (Option DataType)

namespace Grammar

def empty (d : Dialect) : Grammar where
  dialect := d
  priorCondition := Parse.fail "less nesting"
  condition := Parse.fail "less nesting"
  equality := Parse.fail "less nesting"
  bitwise := Parse.fail "less nesting"
  term := Parse.fail "less nesting"
  unary := Parse.fail "less nesting"
  expression := Parse.fail "less nesting"
  query := Parse.fail "less nesting"
  plainQuery := Parse.fail "less nesting"
  itemQuery := Parse.fail "less nesting"
  item := Parse.fail "less nesting"
  joins := Parse.fail "less nesting"
  setOperations := fun _ => Parse.fail "less nesting"
  clauses := fun _ => Parse.fail "less nesting"
  statement := Parse.fail "less nesting"
  dataType := fun _ => Parse.fail "less nesting"

end Grammar

end QueryFlow.Sql
