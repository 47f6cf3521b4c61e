import QueryFlow.Sql.Expr

/-!
Statements of a script. Queries keep their tree, declarations of tables keep what they say about
columns and keys, and of all other statements only their presence is kept.
-/

namespace QueryFlow.Sql

/-- What a foreign key points to: a table, and its columns where they are listed. -/
structure KeyTarget where
  table : Option String := none
  columns : List String := []
  deriving Repr, DecidableEq

/-- What the declaration of a column says behind its type. -/
inductive ColumnRule where
  | notNull
  | primaryKey
  | defaultValue (value : Expr)
  | references (target : KeyTarget)
  | other

structure ColumnDeclaration where
  name : String
  type : Option DataType
  rules : List ColumnRule

/-- What a table says about several of its columns. -/
inductive TableRule where
  | primaryKey (columns : List String)
  | foreignKey (columns : List String) (target : KeyTarget)
  | other
  deriving Repr, DecidableEq

structure TableDeclaration where
  name : String
  columns : List ColumnDeclaration
  rules : List TableRule

inductive Statement where
  | query (tree : Expr)
  | declaration (table : TableDeclaration)
  | other

end QueryFlow.Sql
