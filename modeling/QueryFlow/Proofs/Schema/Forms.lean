import QueryFlow.Proofs.Schema.Declared
import Mathlib.Control.Monad.Basic
import Mathlib.Data.List.Forall2

/-!
The two forms of a key of one column: with the column itself, or as a rule of the table, which may
stand anywhere among the items. The main statement says exactly when a key can be moved from the one
form to the other. A primary key always can; a reference becomes the last one that counts at its new
place, so an older rule of the table about the same column loses to it. The column must go on being
one, which a bare name is not. Which columns may be null follows for both forms alike.
-/

namespace QueryFlow.Schema

open Sql
open Parse (SchemaItem)

/-- A key of one column: it is in the primary key, or it points to another table. -/
inductive KeyForm where
  | primary
  | reference (t : KeyTarget)

namespace KeyForm

def inline : KeyForm → ColumnRule
  | primary => .primaryKey
  | reference t => .references t

def tabled (name : String) : KeyForm → TableRule
  | primary => .primaryKey [name]
  | reference t => .foreignKey [name] t

/-- Between these rules of the table the key makes the same of its column as in front of them. A
primary key always does; a reference does when one behind it has the last word in any case, or when
the last one in front of it points to the same place. -/
def Stands (name : String) (ahead behind : List TableRule) : KeyForm → Prop
  | primary => True
  | reference t => targetsOn name behind ≠ [] ∨
    ∀ t', (targetsOn name ahead).getLast? = some t' →
      t'.table = t.table ∧ t'.columns.head? = t.columns.head?

theorem ruleOn_tabled (key : KeyForm) (name n : String) :
    ruleOn n (key.tabled name) = if n = name then [key.inline] else [] := by
  cases key <;> simp [tabled, ruleOn, inline]

end KeyForm

/-- A key as a rule of its column, with the rules of the column around it and the items around the
column. -/
structure InlineKey where
  front : List SchemaItem
  name : String
  type : Option DataType
  ahead : List ColumnRule
  key : KeyForm
  behind : List ColumnRule
  back : List SchemaItem

namespace InlineKey

variable (k : InlineKey)

def column : ColumnDeclaration := ⟨k.name, k.type, k.ahead ++ k.key.inline :: k.behind⟩

/-- The column without its key. -/
def stripped : ColumnDeclaration := ⟨k.name, k.type, k.ahead ++ k.behind⟩

def items : List SchemaItem := k.front ++ .column k.column :: k.back

/-- The items of the table without the key of the column. -/
def rest : List SchemaItem := k.front ++ .ofColumn k.stripped :: k.back

/-- The items with the key as a rule of the table between these parts of the rest. -/
def moved (front back : List SchemaItem) : List SchemaItem :=
  front ++ .rules [k.key.tabled k.name] :: back

/-- The columns of the table have names of their own, the column of the key stays a column without
it, and it points nowhere else by a rule of its own. -/
structure Movable : Prop where
  distinct : ((columnsIn k.items).map ColumnDeclaration.name).Nodup
  kept : k.type.isSome = true ∨ k.ahead ++ k.behind ≠ []
  only : ∀ t, k.key = .reference t → ∀ t', .references t' ∉ k.ahead ++ k.behind

variable {k}

theorem rules_inline (rules : List TableRule) :
    (under rules k.column).rules =
      k.ahead ++ [k.key.inline] ++ (k.behind ++ rules.flatMap (ruleOn k.name)) := by
  simp [under, column]

theorem rules_tabled (ahead behind : List TableRule) :
    (under (ahead ++ k.key.tabled k.name :: behind) k.stripped).rules =
      k.ahead ++ (k.behind ++ ahead.flatMap (ruleOn k.name)) ++ [k.key.inline] ++
        behind.flatMap (ruleOn k.name) := by
  simp [under, stripped, KeyForm.ruleOn_tabled]

/-- Moving the key to the rules of the table moves it behind the other rules of its column. -/
theorem rules_perm (ahead behind : List TableRule) :
    (under (ahead ++ k.key.tabled k.name :: behind) k.stripped).rules.Perm
      (under (ahead ++ behind) k.column).rules := by
  rw [rules_inline, rules_tabled, ← List.append_cons, ← List.append_cons]
  exact List.perm_middle.trans (.trans (.of_eq (by simp)) List.perm_middle.symm)

/-- The column comes to the same in both forms exactly when its key stands between the rules of the
table. -/
theorem column_eq_iff (d : Dialect) (movable : k.Movable) (ahead behind : List TableRule) :
    Column.ofDeclaration d (under (ahead ++ k.key.tabled k.name :: behind) k.stripped) =
        Column.ofDeclaration d (under (ahead ++ behind) k.column) ↔
      k.key.Stands k.name ahead behind := by
  have perm := rules_perm (k := k) ahead behind
  have defaults : (under (ahead ++ k.key.tabled k.name :: behind) k.stripped).rules.filterMap
      default? = (under (ahead ++ behind) k.column).rules.filterMap default? := by
    have none : default? k.key.inline = none := by
      cases k.key <;> rfl
    rw [defaults_under, defaults_under]
    simp [stripped, column, none]
  rw [ofDeclaration_eq, ofDeclaration_eq, perm.any_eq, perm.any_eq, defaults, rules_tabled,
    rules_inline]
  simp only [List.filterMap_append, targets_ruleOn, targetsOn_append]
  cases form : k.key with
  | primary =>
    refine iff_of_true ?_ trivial
    simp [KeyForm.inline, target?, under, stripped, column]
  | reference t =>
    have only := movable.only t form
    rw [targets_eq_nil fun t' found => only t' (List.mem_append_left _ found),
      targets_eq_nil fun t' found => only t' (List.mem_append_right _ found)]
    have said : [(KeyForm.reference t).inline].filterMap target? = [t] := rfl
    simp only [Column.mk.injEq, under, stripped, column, said, KeyForm.Stands,
      List.getLast?_append, List.getLast?_singleton, List.nil_append, true_and, and_true]
    cases late : (targetsOn k.name behind).getLast? with
    | some t' =>
      have more : targetsOn k.name behind ≠ [] := List.ne_nil_of_mem (List.mem_of_getLast? late)
      simp [more]
    | none =>
      rw [List.getLast?_eq_none_iff] at late
      cases early : (targetsOn k.name ahead).getLast? with
      | none => simp
      | some t' => simp [late, eq_comm]

/-- A column that has a type or another rule stays one without its key. -/
theorem rest_eq (movable : k.Movable) :
    k.rest = k.front ++ .column k.stripped :: k.back := by
  have column : SchemaItem.ofColumn k.stripped = .column k.stripped := by
    refine if_neg fun bare => ?_
    simp only [stripped, Bool.and_eq_true, Option.isNone_iff_eq_none, List.isEmpty_iff] at bare
    rcases movable.kept with typed | ruled
    · simp [bare.1] at typed
    · exact ruled bare.2
  rw [rest, column]

section Placed

variable {front back : List SchemaItem}

theorem columnsIn_moved (movable : k.Movable) (placed : front ++ back = k.rest) :
    columnsIn (k.moved front back) = columnsIn k.front ++ k.stripped :: columnsIn k.back := by
  rw [moved, columnsIn_append, columnsIn_rules, ← columnsIn_append, placed, rest_eq movable,
    columnsIn_append, columnsIn_column]

theorem columnsIn_items :
    columnsIn k.items = columnsIn k.front ++ k.column :: columnsIn k.back := by
  simp [items]

theorem distinct_moved (movable : k.Movable) (placed : front ++ back = k.rest) :
    ((columnsIn (k.moved front back)).map ColumnDeclaration.name).Nodup := by
  have distinct := movable.distinct
  rw [columnsIn_items] at distinct
  rw [columnsIn_moved movable placed]
  simpa [stripped, column] using distinct

theorem other_name (movable : k.Movable) {c : ColumnDeclaration}
    (other : c ∈ columnsIn k.front ++ columnsIn k.back) : c.name ≠ k.name := by
  have distinct := movable.distinct
  rw [columnsIn_items, List.map_append, List.map_cons, List.nodup_middle, ← List.map_append]
    at distinct
  exact fun same => (List.nodup_cons.mp distinct).1 (List.mem_map.mpr ⟨c, other, same⟩)

theorem rulesIn_moved : rulesIn (k.moved front back) =
    rulesIn front ++ k.key.tabled k.name :: rulesIn back := by
  simp [moved]

theorem rulesIn_items (movable : k.Movable) (placed : front ++ back = k.rest) :
    rulesIn k.items = rulesIn front ++ rulesIn back := by
  rw [← rulesIn_append, placed, rest_eq movable, items, rulesIn_append, rulesIn_append,
    rulesIn_column, rulesIn_column]

/-- The key as a rule of the table says nothing about the other columns. -/
theorem under_other (movable : k.Movable) (placed : front ++ back = k.rest)
    {c : ColumnDeclaration} (other : c ∈ columnsIn k.front ++ columnsIn k.back) :
    under (rulesIn (k.moved front back)) c = under (rulesIn k.items) c := by
  rw [rulesIn_moved, rulesIn_items movable placed]
  simp [under, KeyForm.ruleOn_tabled, other_name movable other]

/-- Only the column of the key is touched when its key is moved. -/
theorem table_eq_iff (w : Surroundings) (movable : k.Movable) (placed : front ++ back = k.rest) :
    w.table (k.moved front back) = w.table k.items ↔
      k.key.Stands k.name (rulesIn front) (rulesIn back) := by
  have others (cs : List ColumnDeclaration)
      (within : cs ⊆ columnsIn k.front ++ columnsIn k.back) :
      cs.map (fun c => Column.ofDeclaration w.chosen (under (rulesIn (k.moved front back)) c)) =
        cs.map fun c => Column.ofDeclaration w.chosen (under (rulesIn k.items) c) :=
    List.map_congr_left fun c found => by rw [under_other movable placed (within found)]
  rw [Surroundings.table_eq_iff_columns,
    Surroundings.table_columns (distinct_moved movable placed),
    Surroundings.table_columns movable.distinct, columnsIn_moved movable placed, columnsIn_items,
    List.map_append, List.map_append, others _ (List.subset_append_left ..),
    List.append_cancel_left_eq, List.map_cons, List.map_cons,
    others _ (List.subset_append_right ..), List.cons.injEq, and_iff_left rfl, rulesIn_moved,
    rulesIn_items movable placed]
  exact column_eq_iff w.chosen movable (rulesIn front) (rulesIn back)

/-- A key is no default value, so the same values must be written when it is moved. -/
theorem writesScript_moved (w : Surroundings) (movable : k.Movable)
    (placed : front ++ back = k.rest) :
    writesScript w.chosen (w.script (k.moved front back)) =
      writesScript w.chosen (w.script k.items) := by
  have key : writesDefaults w.chosen k.stripped = writesDefaults w.chosen k.column := by
    simp only [writesDefaults, stripped, column, List.all_append, List.all_cons]
    cases k.key <;> simp [KeyForm.inline]
  have columns (items : List SchemaItem) : writesScript w.chosen (w.script items) =
      (writesScript w.chosen w.before && ((columnsIn items).all (writesDefaults w.chosen) &&
        writesScript w.chosen w.after)) := List.all_append
  rw [columns, columns, columnsIn_moved movable placed, items, columnsIn_append, columnsIn_column,
    List.all_append, List.all_append, List.all_cons, List.all_cons, key]

/-- A script in which a key is a rule of the table comes to the same as one in which it is a rule of
its column exactly when the key stands between the other rules, as far as the default values can be
written. And a column of a table cannot be null exactly when a rule says so or it is in the primary
key in one of the two forms. -/
theorem key_forms_agree_iff (w : Surroundings) :
    (∀ (k : InlineKey) (front back : List SchemaItem) (text movedText : String), k.Movable →
      front ++ back = k.rest → w.Reads text k.items → w.Reads movedText (k.moved front back) →
      (ofScript w.settings w.dialect movedText = ofScript w.settings w.dialect text ↔
        (writesScript w.chosen (w.script k.items) = true →
          k.key.Stands k.name (rulesIn front) (rulesIn back)))) ∧
    ∀ (text : String) (items : List SchemaItem) (ts : List Table), w.Reads text items →
      ((columnsIn items).map ColumnDeclaration.name).Nodup →
      ofScript w.settings w.dialect text = .ok ts →
      ∃ t, ts = w.tables t ∧
        List.Forall₂ (fun c column => column.name = c.name ∧
          (column.nullable = false ↔ NeverNull (rulesIn items) c)) (columnsIn items) t.columns := by
  constructor
  · intro k front back text movedText movable placed reads moved
    rw [Surroundings.ofScript_eq reads, Surroundings.ofScript_eq moved,
      writesScript_moved w movable placed]
    cases writesScript w.chosen (w.script k.items) with
    | false => simp
    | true =>
      simp only [if_true, Except.ok.injEq, Surroundings.tables_inj, true_imp_iff]
      exact table_eq_iff w movable placed
  · intro text items ts reads distinct accepted
    rw [Surroundings.ofScript_eq reads] at accepted
    split at accepted
    case isFalse => cases accepted
    case isTrue =>
      refine ⟨w.table items, (Except.ok.inj accepted).symm, ?_⟩
      rw [Surroundings.table_columns distinct, List.forall₂_map_right_iff, List.forall₂_same]
      exact fun c _ => ⟨ofDeclaration_name _ _, nullable_iff _ _ _⟩

end Placed

/-- A table with a primary key as a rule of its column. -/
def inlineText : String := "CREATE TABLE t (n INT NOT NULL, id INT PRIMARY KEY)"

/-- The same key as a rule of the table in front of its column. -/
def tabledText : String := "CREATE TABLE t (CONSTRAINT k PRIMARY KEY (id), n INT NOT NULL, id INT)"

/-- The key in the first form. -/
def sampleKey : InlineKey where
  front := [.column ⟨"n", some (.simple "INT" []), [.notNull]⟩]
  name := "id"
  type := some (.simple "INT" [])
  ahead := []
  key := .primary
  behind := []
  back := []

/-- A script of this table alone. -/
def sampleScript : Surroundings := ⟨.ok {}, none, .postgres, [], [], "t"⟩

theorem key_forms_agree_primary :
    ofScript (.ok {}) none tabledText = ofScript (.ok {}) none inlineText ∧
      ∃ t, ofScript (.ok {}) none tabledText = .ok (sampleScript.tables t) ∧
        ∀ c ∈ t.columns, c.nullable = false := by
  have reads : sampleScript.Reads inlineText sampleKey.items :=
    eq_of_isDeclaration (by decide +kernel)
  have moved : sampleScript.Reads tabledText (sampleKey.moved [] sampleKey.rest) :=
    eq_of_isDeclaration (by decide +kernel)
  have distinct : ["n", "id"].Nodup := by decide
  have movable : sampleKey.Movable := ⟨distinct, .inl rfl, nofun⟩
  have accepted := (Surroundings.ofScript_eq moved).trans (if_pos rfl)
  obtain ⟨same, required⟩ := key_forms_agree_iff sampleScript
  obtain ⟨t, tables, described⟩ := required tabledText _ _ moved distinct accepted
  refine ⟨(same sampleKey [] _ inlineText tabledText movable rfl reads moved).mpr fun _ => trivial,
    t, accepted.trans (congrArg Except.ok tables), ?_⟩
  change List.Forall₂ _ [_, _] _ at described
  generalize t.columns = columns at described
  obtain _ | ⟨⟨-, first⟩, _ | ⟨⟨-, second⟩, _ | _⟩⟩ := described
  have not_null := first.mpr (.inl (.head _))
  have in_key := second.mpr (.inr (.inr ⟨["id"], .head _, .head _⟩))
  simpa using And.intro not_null in_key

/-- A reference that comes to stand behind another one makes a difference, and so does a primary key
without which its column is a bare name. -/
theorem key_forms_differ :
    ofScript (.ok {}) none
        "CREATE TABLE o (i INT, FOREIGN KEY (i) REFERENCES b, FOREIGN KEY (i) REFERENCES a)" ≠
      ofScript (.ok {}) none
        "CREATE TABLE o (i INT REFERENCES a, FOREIGN KEY (i) REFERENCES b)" ∧
    ofScript (.ok {}) none "CREATE TABLE t (id, PRIMARY KEY (id))" ≠
      ofScript (.ok {}) none "CREATE TABLE t (id PRIMARY KEY)" := by
  decide +kernel

end InlineKey

end QueryFlow.Schema
