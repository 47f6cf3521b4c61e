import QueryFlow.Proofs.Schema.Declared
import Mathlib.Control.Monad.Basic

/-!
Foreign keys of several columns. Such a key should pair its columns with those of the other table,
the first with the first and so on, and leave all other columns alone. It does leave them alone, but
every column of the key gets the first of the other columns. The main statement says exactly when
the pairs come out right, and a key of two columns shows that they may not.
-/

namespace QueryFlow.Schema

open Sql
open Parse (SchemaItem)

/-- A foreign key with its place: the items around the one that holds it, the rules around it in
there, its columns, the other table and the columns there. -/
structure CompositeKey where
  front : List SchemaItem
  ahead : List TableRule
  columns : List String
  table : String
  targets : List String
  behind : List TableRule
  back : List SchemaItem

namespace CompositeKey

variable (k : CompositeKey)

def items : List SchemaItem :=
  k.front ++ .rules (k.ahead ++ .foreignKey k.columns ⟨some k.table, k.targets⟩ :: k.behind) ::
    k.back

/-- The items of the table when it has not got the key. -/
def without : List SchemaItem := k.front ++ .rules (k.ahead ++ k.behind) :: k.back

def rulesBehind : List TableRule := k.behind ++ rulesIn k.back

/-- No other reference is declared on the columns of the key. -/
structure Alone : Prop where
  inline : ∀ c ∈ columnsIn k.without, c.name ∈ k.columns → ∀ t, .references t ∉ c.rules
  tabled : ∀ n ∈ k.columns, ∀ t ∈ targetsOn n (rulesIn k.without), t.table = none

/-- Each column of the key that the table has points to the one at its place in the other table. -/
def Pairs (t : Table) : Prop :=
  ∀ n u, (n, u) ∈ k.columns.zip k.targets → ∀ c ∈ t.columns, c.name = n →
    c.isForeignKey = true ∧ c.foreignTable = some k.table ∧ c.foreignColumn = some u

def others (t : Table) : List Column := t.columns.filter fun c => !k.columns.contains c.name

variable {k}

theorem columnsIn_items : columnsIn k.items = columnsIn k.without := by
  simp [items, without]

theorem rulesIn_without : rulesIn k.without = rulesIn k.front ++ k.ahead ++ k.rulesBehind := by
  simp [without, rulesBehind]

theorem rulesIn_items :
    rulesIn k.items = rulesIn k.front ++ k.ahead ++
      .foreignKey k.columns ⟨some k.table, k.targets⟩ :: k.rulesBehind := by
  simp [items, rulesBehind]

theorem others_table (w : Surroundings)
    (distinct : ((columnsIn k.items).map ColumnDeclaration.name).Nodup) :
    k.others (w.table k.items) = k.others (w.table k.without) := by
  rw [others, others, Surroundings.table_columns distinct,
    Surroundings.table_columns (columnsIn_items ▸ distinct), columnsIn_items, List.filter_map,
    List.filter_map]
  simp only [Function.comp_def, ofDeclaration_name]
  refine List.map_congr_left fun c found => ?_
  have other : c.name ∉ k.columns := by
    simpa using (List.mem_filter.mp found).2
  simp [under, rulesIn_items, rulesIn_without, ruleOn, other]

/-- A column of the key points where it should exactly when the one to point to is the first one and
no key behind takes the column over. -/
theorem paired_iff (d : Dialect) (alone : k.Alone) {c : ColumnDeclaration}
    (declared : c ∈ columnsIn k.without) (named : c.name ∈ k.columns) (u : String) :
    (let column := Column.ofDeclaration d (under (rulesIn k.items) c)
     column.isForeignKey = true ∧ column.foreignTable = some k.table ∧
       column.foreignColumn = some u) ↔
    k.targets.head? = some u ∧ targetsOn c.name k.rulesBehind = [] := by
  have own : c.rules.filterMap target? = [] := targets_eq_nil (alone.inline c declared named)
  have late : ∀ t ∈ targetsOn c.name k.rulesBehind, t.table = none := fun t found =>
    alone.tabled c.name named t (by
      rw [rulesIn_without, targetsOn_append]
      exact List.mem_append_right _ found)
  have targets : (under (rulesIn k.items) c).rules.filterMap target? =
      targetsOn c.name (rulesIn k.front ++ k.ahead) ++
        ⟨some k.table, k.targets⟩ :: targetsOn c.name k.rulesBehind := by
    rw [targets_under, own, rulesIn_items]
    simp [targetsOn, named]
  simp only [ofDeclaration_eq, targets, List.getLast?_append, List.getLast?_cons]
  -- Whatever stands behind the key has the last word, and it has no table.
  cases last : (targetsOn c.name k.rulesBehind).getLast? with
  | none =>
    rw [List.getLast?_eq_none_iff] at last
    simp [last]
  | some t =>
    have found := List.mem_of_getLast? last
    have nowhere := late t found
    have some_behind : targetsOn c.name k.rulesBehind ≠ [] := List.ne_nil_of_mem found
    simp [nowhere, some_behind]

/-- All columns of the key are paired as they should exactly when each one that the table has is. -/
theorem pairs_iff (w : Surroundings)
    (distinct : ((columnsIn k.items).map ColumnDeclaration.name).Nodup) (alone : k.Alone) :
    k.Pairs (w.table k.items) ↔
      ∀ n u, (n, u) ∈ k.columns.zip k.targets →
        n ∈ (columnsIn k.items).map ColumnDeclaration.name →
        k.targets.head? = some u ∧ targetsOn n k.rulesBehind = [] := by
  refine forall₃_congr fun n u paired => ?_
  have named := (List.of_mem_zip paired).1
  rw [Surroundings.table_columns distinct, columnsIn_items]
  constructor
  · intro all present
    obtain ⟨c, declared, rfl⟩ := List.mem_map.mp present
    exact (paired_iff w.chosen alone declared named u).mp
      (all _ (List.mem_map_of_mem declared) (ofDeclaration_name _ _))
  · intro all column found same
    obtain ⟨c, declared, rfl⟩ := List.mem_map.mp found
    obtain rfl : c.name = n := by simpa using same
    exact (paired_iff w.chosen alone declared named u).mpr (all (List.mem_map_of_mem declared))

/-- A script with a foreign key of several columns gives a table in which they point, pair by pair,
to the columns of the other table, and in which all other columns are as without the key, exactly
when the default values can be written, each column of the key that the table has is paired with the
first of the other columns, and no key behind takes it over. -/
theorem composite_paired_iff {w : Surroundings} {text : String} (reads : w.Reads text k.items)
    (distinct : ((columnsIn k.items).map ColumnDeclaration.name).Nodup) (alone : k.Alone) :
    (∃ t, ofScript w.settings w.dialect text = .ok (w.tables t) ∧ k.Pairs t ∧
      k.others t = k.others (w.table k.without)) ↔
    writesScript w.chosen (w.script k.items) = true ∧
      ∀ n u, (n, u) ∈ k.columns.zip k.targets →
        n ∈ (columnsIn k.items).map ColumnDeclaration.name →
        k.targets.head? = some u ∧ targetsOn n k.rulesBehind = [] := by
  rw [← pairs_iff w distinct alone, Surroundings.ofScript_eq reads]
  cases written : writesScript w.chosen (w.script k.items) with
  | false => simp
  | true =>
    simp only [if_true, Except.ok.injEq, Surroundings.tables_inj, exists_eq_left',
      others_table w distinct, and_true, true_and]

/-- A table with a key of one column. -/
def ordersText : String :=
  "CREATE TABLE orders (id INT, customer INT, FOREIGN KEY (customer) REFERENCES customers (id))"

def ordersKey : CompositeKey where
  front := [.column ⟨"id", some (.simple "INT" []), []⟩,
    .column ⟨"customer", some (.simple "INT" []), []⟩]
  ahead := []
  columns := ["customer"]
  table := "customers"
  targets := ["id"]
  behind := []
  back := []

/-- The script of this table alone. -/
def ordersScript : Surroundings := ⟨.ok {}, none, .postgres, [], [], "orders"⟩

theorem composite_paired_single :
    ordersScript.Reads ordersText ordersKey.items ∧ ordersKey.Alone ∧
      ∃ t, ofScript (.ok {}) none ordersText = .ok (ordersScript.tables t) ∧ ordersKey.Pairs t ∧
        ordersKey.others t = ordersKey.others (ordersScript.table ordersKey.without) := by
  have reads : ordersScript.Reads ordersText ordersKey.items :=
    eq_of_isDeclaration (by decide +kernel)
  have distinct : ["id", "customer"].Nodup := by decide
  have alone : ordersKey.Alone :=
    { inline := by
        rintro c (_ | ⟨_, _ | ⟨_, _ | _⟩⟩) - t <;> exact List.not_mem_nil
      tabled := fun _ _ _ found => nomatch found }
  refine ⟨reads, alone, (composite_paired_iff reads distinct alone).mpr ⟨rfl, ?_⟩⟩
  rintro n u paired -
  obtain ⟨rfl, rfl⟩ : n = "customer" ∧ u = "id" := by simpa [ordersKey] using paired
  exact ⟨rfl, rfl⟩

/-- A table with a key of two columns. -/
def pairText : String := "CREATE TABLE a (x INT, y INT, FOREIGN KEY (x, y) REFERENCES t (u, v))"

/-- The second column of the key points to the first one of the other table, which is not the one at
its place. -/
theorem composite_not_paired :
    ∃ table c, ofScript (.ok {}) none pairText = .ok [table] ∧ table.column? "y" = some c ∧
      c.foreignTable = some "t" ∧ c.foreignColumn = some "u" := by
  have ended : ofScript (.ok {}) none pairText =
      .ok [⟨"a",
        [{ name := "x", dataType := "int", isForeignKey := true, foreignTable := some "t",
            foreignColumn := some "u" },
          { name := "y", dataType := "int", isForeignKey := true, foreignTable := some "t",
            foreignColumn := some "u" }]⟩] := by
    decide +kernel
  exact ⟨_, _, ended, rfl, rfl, rfl⟩

end CompositeKey

end QueryFlow.Schema
