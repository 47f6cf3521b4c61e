/-!
What is known about tables before a query is read: their columns, keys and types.
-/

namespace QueryFlow.Schema

structure Column where
  name : String
  dataType : String := ""
  nullable : Bool := true
  isPrimaryKey : Bool := false
  isForeignKey : Bool := false
  foreignTable : Option String := none
  foreignColumn : Option String := none
  defaultValue : Option String := none
  deriving Repr, DecidableEq

structure Table where
  name : String
  columns : List Column := []
  deriving Repr, DecidableEq

def Table.column? (t : Table) (name : String) : Option Column := t.columns.find? (·.name == name)

end QueryFlow.Schema
