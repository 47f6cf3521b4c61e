import QueryFlow.Schema.Basic
import QueryFlow.Json.Form

/-!
Known tables as JSON.
-/

namespace QueryFlow.Schema

open Form

def nameKey : Key := .plain "name"
def dataTypeKey : Key := ⟨"dataType", "data_type"⟩
def nullableKey : Key := .plain "nullable"
def primaryKeyKey : Key := ⟨"isPrimaryKey", "is_primary_key"⟩
def foreignKeyKey : Key := ⟨"isForeignKey", "is_foreign_key"⟩
def foreignTableKey : Key := ⟨"foreignTable", "foreign_table"⟩
def foreignColumnKey : Key := ⟨"foreignColumn", "foreign_column"⟩
def defaultValueKey : Key := ⟨"defaultValue", "default_value"⟩
def columnsKey : Key := .plain "columns"

/-- The column as JSON; fields without a value are left out. -/
def Column.toJson (c : Column) : Json :=
  .ofPresent
    [(nameKey.camel, some (.string c.name)),
     (dataTypeKey.camel, some (.string c.dataType)),
     (nullableKey.camel, some (.bool c.nullable)),
     (primaryKeyKey.camel, some (.bool c.isPrimaryKey)),
     (foreignKeyKey.camel, some (.bool c.isForeignKey)),
     (foreignTableKey.camel, c.foreignTable.map .string),
     (foreignColumnKey.camel, c.foreignColumn.map .string),
     (defaultValueKey.camel, c.defaultValue.map .string)]

def Table.toJson (t : Table) : Json :=
  .object
    [(nameKey.camel, .string t.name), (columnsKey.camel, .array (t.columns.map Column.toJson))]

def Column.ofFields (fs : List (String × Json)) : Checked Column :=
  (((((((((required nameKey string fs).map Column.mk)
    |> (also · (withDefault dataTypeKey string "" fs)))
    |> (also · (withDefault nullableKey bool true fs)))
    |> (also · (withDefault primaryKeyKey bool false fs)))
    |> (also · (withDefault foreignKeyKey bool false fs)))
    |> (also · (withDefault foreignTableKey (optional string) none fs)))
    |> (also · (withDefault foreignColumnKey (optional string) none fs)))
    |> (also · (withDefault defaultValueKey (optional string) none fs)))

def Column.ofJson (j : Json) : Checked Column := fieldsOf .modelType j >>= Column.ofFields

def Table.ofJson (j : Json) : Checked Table := do
  let fs ← fieldsOf .modelType j
  also ((required nameKey string fs).map Table.mk)
    (withDefault columnsKey (list Column.ofJson) [] fs)

/-- Tables from JSON values, up to the first one with a problem. -/
def tablesOfJson : List Json → Checked (List Table)
  | [] => .ok []
  | j :: r =>
    match Table.ofJson j with
    | .error ps => .error ps
    | .ok t => (tablesOfJson r).map (t :: ·)

end QueryFlow.Schema
