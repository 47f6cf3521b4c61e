import QueryFlow.Schema.Load
import Mathlib.Data.List.Induction
import Mathlib.Data.List.Nodup

/-!
What a declaration makes of a column. Columns of one table with names of their own are decided one
by one: a rule of the table is, for each column that it names, one more rule behind the rules of the
column. Of what the rules say about nulls and the primary key nothing is lost, and of references and
default values the last one counts. A declaration is looked at in a script with other statements
around it. How its text is read is left to the reader of statements; what has been read can be
compared with a declaration.
-/

namespace QueryFlow.Schema

open Sql

def target? : ColumnRule → Option KeyTarget
  | .references t => some t
  | _ => none

theorem targets_eq_nil {rules : List ColumnRule} (nowhere : ∀ t, .references t ∉ rules) :
    rules.filterMap target? = [] := by
  refine List.filterMap_eq_nil_iff.mpr fun r found => ?_
  cases r with
  | references t => exact absurd found (nowhere t)
  | _ => rfl

/-- The default value that a rule of a column gives. -/
def default? : ColumnRule → Option Expr
  | .defaultValue e => some e
  | _ => none

/-- The rule puts a column into the primary key. -/
def isKeyRule : ColumnRule → Bool
  | .primaryKey => true
  | _ => false

/-- The rule keeps a column from being null. -/
def forbidsNull : ColumnRule → Bool
  | .notNull | .primaryKey => true
  | _ => false

/-- A declared column, field by field. -/
theorem ofDeclaration_eq (d : Dialect) (c : ColumnDeclaration) :
    Column.ofDeclaration d c =
      { name := c.name
        dataType := (c.type.map fun t => Text.lower (t.render d)).getD ""
        nullable := !c.rules.any forbidsNull
        isPrimaryKey := c.rules.any isKeyRule
        isForeignKey := (c.rules.filterMap target?).getLast?.isSome
        foreignTable := (c.rules.filterMap target?).getLast?.bind (·.table)
        foreignColumn := (c.rules.filterMap target?).getLast?.bind (·.columns.head?)
        defaultValue := (c.rules.filterMap default?).getLast?.map (·.clauseText d) } := by
  obtain ⟨name, type, rules⟩ := c
  simp only [Column.ofDeclaration]
  induction rules using List.reverseRecOn with
  | nil => rfl
  | append_singleton rules r ih =>
    rw [List.foldl_append, ih]
    cases r <;>
      simp [Column.applyRule, Column.inKey, Column.pointingTo, target?, default?, isKeyRule,
        forbidsNull]

section Tables

/-- What a rule of a table says about the column with this name. -/
def ruleOn (name : String) : TableRule → List ColumnRule
  | .primaryKey names => if name ∈ names then [.primaryKey] else []
  | .foreignKey names t => if name ∈ names then [.references t] else []
  | .other => []

/-- The declaration of a column with what the rules of its table say about it. -/
def under (rules : List TableRule) (c : ColumnDeclaration) : ColumnDeclaration :=
  { c with rules := c.rules ++ rules.flatMap (ruleOn c.name) }

@[simp]
theorem under_name (rules : List TableRule) (c : ColumnDeclaration) :
    (under rules c).name = c.name := rfl

theorem under_cons (r : TableRule) (rules : List TableRule) (c : ColumnDeclaration) :
    under (r :: rules) c = under rules (under [r] c) := by
  simp [under]

@[simp]
theorem ofDeclaration_name (d : Dialect) (c : ColumnDeclaration) :
    (Column.ofDeclaration d c).name = c.name := by
  rw [ofDeclaration_eq]

/-- With names of their own, the first column of a name is the only one. -/
theorem updateFirst_eq_map {n : String} {f : Column → Column} {cs : List Column}
    (distinct : (cs.map Column.name).Nodup) :
    updateFirst n f cs = cs.map fun c => if c.name = n then f c else c := by
  induction cs with
  | nil => rfl
  | cons c r ih =>
    obtain ⟨own, rest⟩ := List.nodup_cons.mp distinct
    rw [updateFirst, List.map_cons]
    by_cases named : c.name = n
    · have others : r.map (fun c => if c.name = n then f c else c) = r := by
        refine (List.map_congr_left fun c' found => if_neg fun same => own ?_).trans (List.map_id r)
        rw [named, ← same]
        exact List.mem_map_of_mem found
      simp [named, others]
    · simp [named, ih rest]

/-- A change that leaves names alone and is the same when it is made again reaches each named column
once. -/
theorem foldl_updateFirst {f : Column → Column} (keeps : ∀ c, (f c).name = c.name)
    (again : ∀ c, f (f c) = f c) (names : List String) {cs : List Column}
    (distinct : (cs.map Column.name).Nodup) :
    names.foldl (fun cs n => updateFirst n f cs) cs =
      cs.map fun c => if c.name ∈ names then f c else c := by
  induction names generalizing cs with
  | nil => simp
  | cons n names ih =>
    have named (c : Column) : (if c.name = n then f c else c).name = c.name := by
      split
      · exact keeps c
      · rfl
    rw [List.foldl_cons, updateFirst_eq_map distinct, ih, List.map_map]
    · refine List.map_congr_left fun c _ => ?_
      by_cases here : c.name = n <;> by_cases later : c.name ∈ names <;>
        simp [here, later, keeps, again]
    · rw [List.map_map]
      simpa only [Function.comp_def, named] using distinct

/-- A rule of a table is one more rule of each column that it names. -/
theorem applyTableRule_map {d : Dialect} {cs : List ColumnDeclaration} (r : TableRule)
    (distinct : (cs.map ColumnDeclaration.name).Nodup) :
    applyTableRule (cs.map (Column.ofDeclaration d)) r =
      (cs.map (under [r])).map (Column.ofDeclaration d) := by
  have named : ((cs.map (Column.ofDeclaration d)).map Column.name).Nodup := by
    simpa only [List.map_map, Function.comp_def, ofDeclaration_name] using distinct
  have reach (names : List String) (rule : ColumnRule) (f : Column → Column)
      (same : ∀ c, Column.applyRule d c rule = f c) (keeps : ∀ c, (f c).name = c.name)
      (again : ∀ c, f (f c) = f c) (said : ∀ n, ruleOn n r = if n ∈ names then [rule] else []) :
      names.foldl (fun cs n => updateFirst n f cs) (cs.map (Column.ofDeclaration d)) =
        (cs.map (under [r])).map (Column.ofDeclaration d) := by
    rw [foldl_updateFirst keeps again names named, List.map_map, List.map_map]
    refine List.map_congr_left fun c _ => ?_
    simp only [Function.comp_apply, ofDeclaration_name, under, List.flatMap_singleton, said]
    split
    · rw [← same, Column.ofDeclaration, Column.ofDeclaration, List.foldl_append]
      rfl
    · rw [List.append_nil]
  cases r with
  | primaryKey names =>
    exact reach names .primaryKey _ (fun _ => rfl) (fun _ => rfl) (fun _ => rfl) fun _ => rfl
  | foreignKey names t =>
    exact reach names (.references t) _ (fun _ => rfl) (fun _ => rfl) (fun _ => rfl) fun _ => rfl
  | other =>
    rw [List.map_map]
    exact List.map_congr_left fun c _ => by simp [under, ruleOn]

/-- Each column of a table is decided by its own declaration and what the rules say about it. -/
theorem ofDeclaration_columns {d : Dialect} {t : TableDeclaration}
    (distinct : (t.columns.map ColumnDeclaration.name).Nodup) :
    (Table.ofDeclaration d t).columns =
      t.columns.map fun c => Column.ofDeclaration d (under t.rules c) := by
  obtain ⟨name, cs, rules⟩ := t
  simp only [Table.ofDeclaration] at distinct ⊢
  induction rules generalizing cs with
  | nil => simp [under]
  | cons r rules ih =>
    rw [List.foldl_cons, applyTableRule_map r distinct, ih, List.map_map]
    · simp only [Function.comp_def, ← under_cons]
    · simpa only [List.map_map, Function.comp_def, under] using distinct

/-- What the rules of a table let the column with this name point to, in order. -/
def targetsOn (name : String) (rules : List TableRule) : List KeyTarget :=
  rules.filterMap fun
    | .foreignKey names t => if name ∈ names then some t else none
    | _ => none

theorem targets_ruleOn (name : String) (rules : List TableRule) :
    (rules.flatMap (ruleOn name)).filterMap target? = targetsOn name rules := by
  have said (r : TableRule) : (ruleOn name r).filterMap target? = targetsOn name [r] := by
    cases r <;> simp only [ruleOn, targetsOn, List.filterMap_cons, List.filterMap_nil] <;>
      split <;> simp [target?, *]
  induction rules with
  | nil => rfl
  | cons r rules ih =>
    rw [List.flatMap_cons, List.filterMap_append, said, ih]
    exact List.filterMap_append.symm

theorem targetsOn_append (name : String) (rules rules' : List TableRule) :
    targetsOn name (rules ++ rules') = targetsOn name rules ++ targetsOn name rules' :=
  List.filterMap_append

theorem targets_under (rules : List TableRule) (c : ColumnDeclaration) :
    (under rules c).rules.filterMap target? =
      c.rules.filterMap target? ++ targetsOn c.name rules := by
  rw [under, List.filterMap_append, targets_ruleOn]

/-- No rule of a table gives a column a default value. -/
theorem defaults_under (rules : List TableRule) (c : ColumnDeclaration) :
    (under rules c).rules.filterMap default? = c.rules.filterMap default? := by
  have none_on (r : TableRule) : ∀ rule ∈ ruleOn c.name r, default? rule = none := by
    cases r <;> simp [ruleOn, default?]
  have none_behind : (rules.flatMap (ruleOn c.name)).filterMap default? = [] := by
    refine List.filterMap_eq_nil_iff.mpr fun rule found => ?_
    obtain ⟨r, -, said⟩ := List.mem_flatMap.mp found
    exact none_on r rule said
  rw [under, List.filterMap_append, none_behind, List.append_nil]

/-- A column that is declared never to be null, or to be in the primary key, by a rule of its own or
of its table. -/
def NeverNull (rules : List TableRule) (c : ColumnDeclaration) : Prop :=
  .notNull ∈ c.rules ∨ .primaryKey ∈ c.rules ∨ ∃ names, .primaryKey names ∈ rules ∧ c.name ∈ names

theorem nullable_iff (d : Dialect) (rules : List TableRule) (c : ColumnDeclaration) :
    (Column.ofDeclaration d (under rules c)).nullable = false ↔ NeverNull rules c := by
  have own : c.rules.any forbidsNull = true ↔ .notNull ∈ c.rules ∨ .primaryKey ∈ c.rules := by
    have said (r : ColumnRule) : forbidsNull r = true ↔ r = .notNull ∨ r = .primaryKey := by
      cases r <;> simp [forbidsNull]
    simp [said, and_or_left, exists_or]
  have tabled : (rules.flatMap (ruleOn c.name)).any forbidsNull = true ↔
      ∃ names, .primaryKey names ∈ rules ∧ c.name ∈ names := by
    have said (r : TableRule) : (ruleOn c.name r).any forbidsNull = true ↔
        ∃ names, r = .primaryKey names ∧ c.name ∈ names := by
      cases r <;> simp [ruleOn, forbidsNull]
    simp only [List.any_flatMap, List.any_eq_true (l := rules), said]
    exact ⟨fun ⟨_, found, names, same, named⟩ => ⟨names, same ▸ found, named⟩,
      fun ⟨names, found, named⟩ => ⟨_, found, names, rfl, named⟩⟩
  rw [ofDeclaration_eq, NeverNull, ← or_assoc, ← own, ← tabled, ← Bool.or_eq_true,
    ← List.any_append]
  exact iff_of_eq (Bool.not_eq_false' _)

end Tables

section Items

open Parse (SchemaItem)

/-- The columns among the items of a table. -/
def columnsIn (items : List SchemaItem) : List ColumnDeclaration :=
  (Parse.declarationOf "" items).columns

def rulesIn (items : List SchemaItem) : List TableRule := (Parse.declarationOf "" items).rules

@[simp]
theorem columnsIn_append (items items' : List SchemaItem) :
    columnsIn (items ++ items') = columnsIn items ++ columnsIn items' := List.filterMap_append

@[simp]
theorem rulesIn_append (items items' : List SchemaItem) :
    rulesIn (items ++ items') = rulesIn items ++ rulesIn items' := List.flatMap_append

@[simp]
theorem columnsIn_column (c : ColumnDeclaration) (items : List SchemaItem) :
    columnsIn (.column c :: items) = c :: columnsIn items := rfl

@[simp]
theorem columnsIn_rules (rules : List TableRule) (items : List SchemaItem) :
    columnsIn (.rules rules :: items) = columnsIn items := rfl

@[simp]
theorem rulesIn_column (c : ColumnDeclaration) (items : List SchemaItem) :
    rulesIn (.column c :: items) = rulesIn items := rfl

@[simp]
theorem rulesIn_rules (rules : List TableRule) (items : List SchemaItem) :
    rulesIn (.rules rules :: items) = rules ++ rulesIn items := rfl

/-- The dialect that a script is read in, and its statements around the declaration of a table. -/
structure Surroundings where
  settings : Form.Checked Settings
  dialect : Option String
  chosen : Dialect
  before : List Statement
  after : List Statement
  name : String

namespace Surroundings

variable (w : Surroundings)

def script (items : List SchemaItem) : List Statement :=
  w.before ++ .declaration (Parse.declarationOf w.name items) :: w.after

def Reads (text : String) (items : List SchemaItem) : Prop :=
  readDeclarations w.settings w.dialect text = .ok (w.chosen, w.script items)

def table (items : List SchemaItem) : Table :=
  Table.ofDeclaration w.chosen (Parse.declarationOf w.name items)

/-- The tables of the script when this one is declared. -/
def tables (t : Table) : List Table := tablesOf w.chosen w.before ++ t :: tablesOf w.chosen w.after

variable {w} {text : String} {items : List SchemaItem}

theorem tables_inj {t t' : Table} : w.tables t = w.tables t' ↔ t = t' := by
  simp [tables]

theorem ofScript_eq (reads : w.Reads text items) :
    ofScript w.settings w.dialect text =
      if writesScript w.chosen (w.script items) then .ok (w.tables (w.table items))
      else .error .unwritable := by
  have declared : tablesOf w.chosen (w.script items) = w.tables (w.table items) := by
    simp [tablesOf, script, tables, table]
  rw [ofScript, show readDeclarations _ _ _ = _ from reads, ← declared]
  rfl

theorem table_columns (distinct : ((columnsIn items).map ColumnDeclaration.name).Nodup) :
    (w.table items).columns =
      (columnsIn items).map fun c => Column.ofDeclaration w.chosen (under (rulesIn items) c) :=
  ofDeclaration_columns distinct

/-- The tables of one script differ in their columns only. -/
theorem table_eq_iff_columns {items' : List SchemaItem} :
    w.table items = w.table items' ↔ (w.table items).columns = (w.table items').columns := by
  simp only [table, Table.ofDeclaration, Parse.declarationOf, Table.mk.injEq, true_and]

end Surroundings

end Items

section Alike

/-- The rules are seen to be the same. Default values are not compared. -/
def alikeRules : ColumnRule → ColumnRule → Bool
  | .notNull, .notNull | .primaryKey, .primaryKey | .other, .other => true
  | .references t, .references t' => t == t'
  | _, _ => false

/-- The types are seen to be the same. Only types that are not made of others are compared. -/
def alikeTypes : Option DataType → Option DataType → Bool
  | none, none => true
  | some (.simple s arguments), some (.simple s' arguments') => s == s' && arguments == arguments'
  | _, _ => false

/-- The columns are seen to be the same. -/
def alikeColumns (c c' : ColumnDeclaration) : Bool :=
  c.name == c'.name && alikeTypes c.type c'.type && c.rules.isEqv c'.rules alikeRules

/-- What has been read is seen to be a script of one declaration. -/
def isDeclaration (d : Dialect) (t : TableDeclaration) :
    Except LoadFault (Dialect × List Statement) → Bool
  | .ok (d', [.declaration t']) =>
    d' == d && t'.name == t.name && t'.columns.isEqv t.columns alikeColumns && t'.rules == t.rules
  | _ => false

theorem eq_of_isEqv {α : Type} {same : α → α → Bool} (sound : ∀ a b, same a b = true → a = b)
    {l l' : List α} (alike : l.isEqv l' same = true) : l = l' := by
  induction l generalizing l' with
  | nil => cases l' with
    | nil => rfl
    | cons _ _ => cases alike
  | cons a r ih => cases l' with
    | nil => cases alike
    | cons b r' =>
      rw [List.isEqv, Bool.and_eq_true] at alike
      rw [sound a b alike.1, ih alike.2]

theorem eq_of_alikeRules (r r' : ColumnRule) (alike : alikeRules r r' = true) : r = r' := by
  unfold alikeRules at alike
  grind

theorem eq_of_alikeTypes (t t' : Option DataType) (alike : alikeTypes t t' = true) : t = t' := by
  unfold alikeTypes at alike
  grind

theorem eq_of_alikeColumns (c c' : ColumnDeclaration) (alike : alikeColumns c c' = true) :
    c = c' := by
  simp only [alikeColumns, Bool.and_eq_true, beq_iff_eq] at alike
  obtain ⟨⟨name, type⟩, rules⟩ := alike
  cases c
  cases c'
  simp only [ColumnDeclaration.mk.injEq]
  exact ⟨name, eq_of_alikeTypes _ _ type, eq_of_isEqv eq_of_alikeRules rules⟩

theorem eq_of_isDeclaration {d : Dialect} {t : TableDeclaration}
    {read : Except LoadFault (Dialect × List Statement)} (alike : isDeclaration d t read = true) :
    read = .ok (d, [.declaration t]) := by
  unfold isDeclaration at alike
  split at alike
  case h_2 => cases alike
  case h_1 d' t' =>
    simp only [Bool.and_eq_true, beq_iff_eq] at alike
    obtain ⟨⟨⟨rfl, name⟩, columns⟩, rules⟩ := alike
    obtain rfl : t' = t := by
      cases t
      cases t'
      simp only [TableDeclaration.mk.injEq]
      exact ⟨name, eq_of_isEqv eq_of_alikeColumns columns, rules⟩
    rfl

end Alike

end QueryFlow.Schema
