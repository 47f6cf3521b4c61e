import QueryFlow.Schema.Basic
import QueryFlow.Sql.Render
import QueryFlow.Sql.Statement

/-!
Known tables from their declarations. Rules of a table are applied to its columns after all columns
are there, so their place among the columns does not matter.
-/

namespace QueryFlow.Schema

open Sql

def Column.inKey (c : Column) : Column := { c with isPrimaryKey := true, nullable := false }

/-- The column as a foreign key. Of the columns that it points to the first one is kept. -/
def Column.pointingTo (t : KeyTarget) (c : Column) : Column :=
  { c with isForeignKey := true, foreignTable := t.table, foreignColumn := t.columns.head? }

def Column.applyRule (d : Dialect) (c : Column) : ColumnRule → Column
  | .notNull => { c with nullable := false }
  | .primaryKey => c.inKey
  | .defaultValue e => { c with defaultValue := some (e.clauseText d) }
  | .references t => c.pointingTo t
  | .other => c

def Column.ofDeclaration (d : Dialect) (c : ColumnDeclaration) : Column :=
  c.rules.foldl (Column.applyRule d)
    { name := c.name, dataType := (c.type.map fun t => Text.lower (t.render d)).getD "" }

def updateFirst (name : String) (change : Column → Column) : List Column → List Column
  | [] => []
  | c :: r => if c.name == name then change c :: r else c :: updateFirst name change r

def applyTableRule (columns : List Column) : TableRule → List Column
  | .primaryKey names => names.foldl (fun cs n => updateFirst n Column.inKey cs) columns
  | .foreignKey names target =>
    names.foldl (fun cs n => updateFirst n (Column.pointingTo target) cs) columns
  | .other => columns

def Table.ofDeclaration (d : Dialect) (t : TableDeclaration) : Table where
  name := t.name
  columns := t.rules.foldl applyTableRule (t.columns.map (Column.ofDeclaration d))

def writesDefaults (d : Dialect) (c : ColumnDeclaration) : Bool :=
  c.rules.all fun
    | .defaultValue e => e.hasClauseText d
    | _ => true

/-- The dialect can write the default values of all tables that a script declares. -/
def writesScript (d : Dialect) (script : List Statement) : Bool :=
  script.all fun
    | .declaration t => t.columns.all (writesDefaults d)
    | _ => true

def tablesOf (d : Dialect) (script : List Statement) : List Table :=
  script.filterMap fun
    | .declaration t => some (Table.ofDeclaration d t)
    | _ => none

end QueryFlow.Schema
