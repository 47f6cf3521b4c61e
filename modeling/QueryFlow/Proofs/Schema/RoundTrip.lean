import QueryFlow.Proofs.Json.Records
import QueryFlow.Query.Flow
import QueryFlow.Schema.Load
import Mathlib.Data.List.Forall2

/-!
Known tables that are sent out and read again. The main statement says that tables read as
themselves, that every JSON value either gives one table for each of its items or is refused for a
stated reason, and that it makes no difference to a flow graph whether the tables that a script
declares are taken as they are or from what was sent out.
-/

namespace QueryFlow.Schema

open Form

def Column.record (c : Column) : Record :=
  [(nameKey, some (.string c.name)), (dataTypeKey, some (.string c.dataType)),
    (nullableKey, some (.bool c.nullable)), (primaryKeyKey, some (.bool c.isPrimaryKey)),
    (foreignKeyKey, some (.bool c.isForeignKey)), (foreignTableKey, c.foreignTable.map .string),
    (foreignColumnKey, c.foreignColumn.map .string), (defaultValueKey, c.defaultValue.map .string)]

def Table.record (t : Table) : Record :=
  [(nameKey, some (.string t.name)), (columnsKey, some (.array (t.columns.map Column.toJson)))]

def tablesToJson (ts : List Table) : Json := .array (ts.map Table.toJson)

theorem Column.write_record (c : Column) : Style.wire.write c.record = c.toJson :=
  wire_write c.record

theorem Table.write_record (t : Table) : Style.wire.write t.record = t.toJson := wire_write t.record

theorem Column.reads : Reads Column.ofJson Column.toJson := by
  refine ⟨fun c => ?_, nofun⟩
  have apart : Separate c.record := (by decide : [nameKey, dataTypeKey, nullableKey, primaryKeyKey,
    foreignKeyKey, foreignTableKey, foreignColumnKey, defaultValueKey].Pairwise Apart)
  rw [ofJson, ← c.write_record, fieldsOf_write, ofFields, required_back string_reads apart 0 rfl,
    withDefault_back string_reads apart 1 rfl, withDefault_back bool_reads apart 2 rfl,
    withDefault_back bool_reads apart 3 rfl, withDefault_back bool_reads apart 4 rfl,
    optional_back string_reads apart 5 rfl, optional_back string_reads apart 6 rfl,
    optional_back string_reads apart 7 rfl]
  rfl

theorem Table.reads : Reads Table.ofJson Table.toJson := by
  refine ⟨fun t => ?_, nofun⟩
  have apart : Separate t.record := (by decide : [nameKey, columnsKey].Pairwise Apart)
  rw [ofJson, ← t.write_record, fieldsOf_write, required_back string_reads apart 0 rfl,
    withDefault_back (list_reads Column.reads) apart 1 rfl]
  rfl

/-- Every item reads as one table, in their order. -/
def ReadAs (js : List Json) (ts : List Table) : Prop :=
  List.Forall₂ (fun j t => Table.ofJson j = .ok t) js ts

theorem tablesOfJson_of_readAs {js : List Json} {ts : List Table} (h : ReadAs js ts) :
    tablesOfJson js = .ok ts := by
  induction h with
  | nil => rfl
  | cons first _ ih =>
    rw [tablesOfJson, first, ih]
    rfl

/-- The first item that is no table decides what is wrong with all of them. -/
theorem tablesOfJson_of_refused {good : List Json} {ts : List Table} (h : ReadAs good ts)
    {bad : Json} {ps : List Problem} (refused : Table.ofJson bad = .error ps) (rest : List Json) :
    tablesOfJson (good ++ bad :: rest) = .error ps := by
  induction h with
  | nil => rw [List.nil_append, tablesOfJson, refused]
  | cons first _ ih =>
    rw [List.cons_append, tablesOfJson, first, ih]
    rfl

/-- Either all items are tables, or there is a first one that is none. -/
theorem readAs_or_refused (js : List Json) :
    (∃ ts, ReadAs js ts) ∨ ∃ good ts bad ps rest, js = good ++ bad :: rest ∧ ReadAs good ts ∧
      Table.ofJson bad = .error ps := by
  induction js with
  | nil => exact .inl ⟨[], .nil⟩
  | cons j rest ih =>
    cases here : Table.ofJson j with
    | error ps => exact .inr ⟨[], [], j, ps, rest, rfl, .nil, here⟩
    | ok t =>
      rcases ih with ⟨ts, all⟩ | ⟨good, ts, bad, ps, behind, rfl, all, refused⟩
      · exact .inl ⟨t :: ts, .cons here all⟩
      · exact .inr ⟨j :: good, t :: ts, bad, ps, behind, rfl, .cons here all, refused⟩

theorem ofJson_tablesToJson (ts : List Table) : ofJson (tablesToJson ts) = .ok ts := by
  have all : ReadAs (ts.map Table.toJson) ts :=
    List.forall₂_map_left_iff.mpr (List.forall₂_same.mpr fun t _ => Table.reads.back t)
  rw [tablesToJson, ofJson, tablesOfJson_of_readAs all]

/-- What reading a value as tables comes to. -/
inductive Reading (j : Json) : Except SchemaFault (List Table) → Prop
  /-- All items of a list are tables. -/
  | tables {js : List Json} {ts : List Table} (items : j = .array js) (all : ReadAs js ts) :
    Reading j (.ok ts)
  /-- An item of a list is no table, and those in front of it are tables. -/
  | invalid {good : List Json} {ts : List Table} {bad : Json} {ps : List Problem}
      {rest : List Json} (items : j = .array (good ++ bad :: rest)) (before : ReadAs good ts)
      (refused : Table.ofJson bad = .error ps) :
    Reading j (.error (.invalid ps))
  /-- The value is no list. -/
  | notAList (other : ∀ js, j ≠ .array js) : Reading j (.error .notAList)

theorem reading (j : Json) : Reading j (ofJson j) := by
  cases j with
  | array js =>
    rw [ofJson]
    rcases readAs_or_refused js with ⟨ts, all⟩ | ⟨good, ts, bad, ps, rest, rfl, all, refused⟩
    · rw [tablesOfJson_of_readAs all]
      exact .tables rfl all
    · rw [tablesOfJson_of_refused all refused]
      exact .invalid rfl all refused
  | _ => exact .notAList nofun

/-- Tables read as themselves from what is sent out. Every value is read as tables or refused: as no
list, or with the problems of its first item that is no table. Tables that a script declares give
the flow graphs that they give once they were sent out and read again. -/
theorem tables_round_trip :
    (∀ ts, ofJson (tablesToJson ts) = .ok ts) ∧ (∀ j, Reading j (ofJson j)) ∧
    ∀ settings dialect script ts, ofScript settings dialect script = .ok ts →
      ∃ ts', ofJson (tablesToJson ts) = .ok ts' ∧ ∀ settings dialect text,
        flowOfText settings ts' dialect text = flowOfText settings ts dialect text :=
  ⟨ofJson_tablesToJson, reading, fun _ _ _ ts _ => ⟨ts, ofJson_tablesToJson ts, fun _ _ _ => rfl⟩⟩

/-- `SELECT id FROM users`, where the columns of `users` are declared. -/
theorem tables_round_trip_declared :
    ∃ ts ts', ofScript (.ok {}) none "CREATE TABLE users (id INT PRIMARY KEY, name TEXT)" = .ok ts ∧
      ofJson (tablesToJson ts) = .ok ts' ∧
      flowOfText (.ok {}) ts' none "SELECT id FROM users" =
        flowOfText (.ok {}) ts none "SELECT id FROM users" := by
  cases declared :
      ofScript (.ok {}) none "CREATE TABLE users (id INT PRIMARY KEY, name TEXT)" with
  | error _ =>
    have accepted : (ofScript (.ok {}) none
        "CREATE TABLE users (id INT PRIMARY KEY, name TEXT)").isOk = true := by decide +kernel
    rw [declared] at accepted
    cases accepted
  | ok ts =>
    obtain ⟨ts', back, same⟩ := tables_round_trip.2.2 _ _ _ ts declared
    exact ⟨ts, ts', rfl, back, same _ _ _⟩

end QueryFlow.Schema
