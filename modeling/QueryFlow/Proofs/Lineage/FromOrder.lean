import QueryFlow.Proofs.Builder.Usage
import QueryFlow.Proofs.Lineage.Composition
import QueryFlow.Query.Flow

/-!
Columns without a qualifier in a SELECT that reads tables. Such a column should belong to the first
table, in the order of the FROM clause, that is known to have a column of its name. A table without
a join marker cuts off all tables in front of it, and the column belongs to the first table that is
left. The main statement says when this makes no difference. For this the columns that the tables
list must be those that are used, and a use without a qualifier counts for every table. What is
known of a table is stated here without the search in the schema.
-/

namespace QueryFlow

open Lineage

/-- The last one of its kind in a list. -/
def IsLast {α : Type} (is : α → Prop) (xs : List α) (x : α) : Prop :=
  ∃ front rest, xs = front ++ x :: rest ∧ is x ∧ ∀ y ∈ rest, ¬ is y

/-- The schema means this table by a name: the last one of just this name, or, if there is none,
the last one whose name differs in the case of letters only. -/
def Schema.Means (tables : List Schema.Table) (name : String) (t : Schema.Table) : Prop :=
  IsLast (·.name = name) tables t ∨
    (∀ u ∈ tables, u.name ≠ name) ∧ IsLast (Text.lower ·.name = Text.lower name) tables t

theorem find?_reverse_eq_some_iff {α : Type} {is : α → Bool} {xs : List α} {x : α} :
    xs.reverse.find? is = some x ↔ IsLast (is · = true) xs x := by
  rw [List.find?_eq_some_iff_append]
  constructor
  · rintro ⟨hx, before, behind, split, none⟩
    refine ⟨behind.reverse, before.reverse, ?_, hx, fun y hy => ?_⟩
    · rw [← List.reverse_reverse xs, split]
      simp
    · simpa using none y (List.mem_reverse.mp hy)
  · rintro ⟨front, rest, rfl, hx, none⟩
    refine ⟨hx, rest.reverse, front.reverse, by simp, fun y hy => ?_⟩
    simpa using none y (List.mem_reverse.mp hy)

namespace BuildContext

variable (ctx : BuildContext)

theorem table?_eq_some_iff {name : String} {t : Schema.Table} :
    ctx.table? name = some t ↔ Schema.Means ctx.schema name t := by
  have exactly : ctx.schema.reverse.find? (·.name == name) = none ↔
      ∀ u ∈ ctx.schema, u.name ≠ name := by simp
  have either : ctx.table? name = (ctx.schema.reverse.find? (·.name == name)).or
      (ctx.schema.reverse.find? fun t => Text.lower t.name == Text.lower name) :=
    Option.orElse_eq_or
  simp only [either, Option.or_eq_some_iff, find?_reverse_eq_some_iff, exactly, beq_iff_eq,
    Schema.Means]

/-- The schema knows a column of this name in the table that it means by the other. -/
def Lists (table column : String) : Prop :=
  ∃ t, Schema.Means ctx.schema table t ∧ ∃ col ∈ t.columns, col.name = column

theorem mem_columns_iff (table column : String) :
    (∃ x ∈ ctx.columns table, x.name = column) ↔ ctx.Lists table column := by
  unfold Lists columns
  simp only [← table?_eq_some_iff]
  cases ctx.table? table with
  | none => simp
  | some t => simp

instance (table column : String) : Decidable (ctx.Lists table column) :=
  decidable_of_iff _ (ctx.mem_columns_iff table column)

/-- The first table of some entries that is known to have a column of this name. -/
def owner? (column : String) (entries : List FromEntry) : Option String :=
  entries.findSome? fun e => if ctx.Lists e.table column then some e.table else none

variable {ctx} {column : String} {entries : List FromEntry}

theorem owner?_eq_none_iff :
    ctx.owner? column entries = none ↔ ∀ e ∈ entries, ¬ ctx.Lists e.table column := by
  simp [owner?, List.findSome?_eq_none_iff]

theorem owner?_eq_some_iff {table : String} :
    ctx.owner? column entries = some table ↔ ∃ front e rest, entries = front ++ e :: rest ∧
      e.table = table ∧ ctx.Lists e.table column ∧ ∀ x ∈ front, ¬ ctx.Lists x.table column := by
  simp only [owner?, List.findSome?_eq_some_iff, Option.ite_none_right_eq_some, Option.some.injEq,
    ite_eq_right_iff, reduceCtorEq, imp_false]
  constructor
  · rintro ⟨front, e, rest, split, ⟨lists, same⟩, before⟩
    exact ⟨front, e, rest, split, same, lists, before⟩
  · rintro ⟨front, e, rest, split, same, lists, before⟩
    exact ⟨front, e, rest, split, ⟨lists, same⟩, before⟩

end BuildContext

/-- A plain item refers to its column. -/
theorem SelectItem.Plain.mem_references {item : SelectItem} {c : String} (h : item.Plain c) :
    ⟨none, c⟩ ∈ item.expr.references := by
  obtain ⟨_, path, form, reference⟩ := h
  exact Sql.Expr.mem_references (by rw [form]; exact congrArg some reference)

namespace Usage

variable {u : Usage} {column : String}

/-- A column of this name is kept in every table. -/
def Covers (u : Usage) (column : String) : Prop :=
  u.showAll = true ∨ column ∈ u.under unqualified

/-- A plain item of the select list counts as a use for every table. The reserved qualifier must not
be written, since a star under it would replace what is noted. -/
theorem ofSelection_covers {s : Selection} {item : SelectItem} (mem : item ∈ s.items)
    (plain : item.Plain column)
    (free : ∀ x ∈ expressionsOf s, ∀ r ∈ x.references, r.table ≠ some unqualified) :
    (ofSelection s).Covers column := by
  have noted := mem_references_of_item mem plain.mem_references
  have unreserved : ⟨some unqualified, "*"⟩ ∉ s.references := by
    intro reserved
    obtain ⟨x, hx, hr⟩ := List.mem_flatMap.mp reserved
    exact free x hx _ hr rfl
  by_cases star : ⟨none, "*"⟩ ∈ s.references
  · exact .inl ((showAll_ofSelection s).mpr star)
  · exact .inr ((mem_under_ofSelection star).mpr (.of_mem noted rfl unreserved))

theorem Covers.mem_keep_iff (h : u.Covers column) (table : String) (shown : Option String)
    (columns : List ColumnRef) :
    (∃ x ∈ u.keep table shown columns, x.name = column) ↔ ∃ x ∈ columns, x.name = column := by
  simp only [keep]
  split
  case isTrue => rfl
  case isFalse all =>
    simp only [Bool.or_eq_true, not_or] at all
    have used : column ∈ u.under unqualified := h.resolve_left all.1.1
    constructor
    · rintro ⟨x, hx, same⟩
      exact ⟨x, (List.mem_filter.mp hx).1, same⟩
    · rintro ⟨x, hx, rfl⟩
      exact ⟨x, List.mem_filter.mpr ⟨hx, by simp [used]⟩, rfl⟩

end Usage

namespace FromEntry

/-- The entries of a FROM clause that its result still knows: behind the last one without a join
marker, and that one, too. In front of the first entry there is nothing to cut off. -/
def reached : List FromEntry → List FromEntry
  | [] => []
  | e :: rest => if rest.all (·.join.isSome) then e :: rest else reached rest

theorem reached_of_joined {entries : List FromEntry}
    (joined : entries.all (·.join.isSome) = true) : reached entries = entries := by
  cases entries with
  | nil => rfl
  | cons e rest =>
    rw [List.all_cons, Bool.and_eq_true] at joined
    rw [reached, if_pos joined.2]

theorem joined_listed (e : FromEntry) (last : Option Inflow) (current : Inflow) :
    (e.joined last current).listed =
      (if e.join.isSome then (last.map Inflow.listed).getD [] else []) ++ current.listed := by
  cases hj : e.join <;> cases last <;> simp [joined, hj, Inflow.listed]

/-- A chain over some entries lists what the entries list that it still knows, in their order. What
was in front of them is only listed if all of them are joined. -/
theorem chain_listed (read : FromEntry → Inflow) (last : Option Inflow) (entries : List FromEntry) :
    ((entries.foldl (fun last e => some (e.joined last (read e))) last).map Inflow.listed).getD [] =
      (if entries.all (·.join.isSome) then (last.map Inflow.listed).getD [] else []) ++
        (reached entries).flatMap fun e => (read e).listed := by
  induction entries generalizing last with
  | nil => simp [reached]
  | cons e rest ih =>
    rw [List.foldl_cons, ih, Option.map_some, Option.getD_some, joined_listed, List.all_cons]
    cases joined : rest.all (·.join.isSome) with
    | true =>
      have all : reached (e :: rest) = e :: rest := if_pos joined
      simp [all, reached_of_joined joined]
    | false =>
      have cut : reached (e :: rest) = reached rest := if_neg (joined ▸ Bool.false_ne_true)
      simp [cut]

end FromEntry

/-- The columns that are listed above the result are those of the entries that are reached. -/
theorem Selection.inflow_listed_eq (ctx : BuildContext) (offers : List Offer) (s : Selection) :
    (s.inflow ctx offers).listed = (FromEntry.reached s.entries).flatMap fun e =>
      (e.inflow ctx offers (Usage.ofSelection s)).listed := by
  rw [inflow_listed, chain, FromEntry.chain_listed]
  simp

namespace FromEntry

variable {ctx : BuildContext} {u : Usage} {column : String}

/-- Of the columns that an entry lists, those of a covered name are known to the schema. -/
theorem find?_listed (e : FromEntry) (covers : u.Covers column) :
    (e.inflow ctx [] u).listed.find? (·.column == column) =
      if ctx.Lists e.table column then some ⟨e.table, column⟩ else none := by
  have kept := (covers.mem_keep_iff e.table e.alias (ctx.columns e.table)).trans
    (ctx.mem_columns_iff e.table column)
  have table : (e.inflow ctx [] u).listed =
      (u.keep e.table e.alias (ctx.columns e.table)).map fun c => ⟨e.table, c.name⟩ := rfl
  rw [table, List.find?_map]
  split
  case isTrue lists =>
    obtain ⟨x, hx, same⟩ := kept.mpr lists
    obtain ⟨y, hy⟩ : ∃ y, (u.keep e.table e.alias (ctx.columns e.table)).find?
        ((·.column == column) ∘ fun c => (⟨e.table, c.name⟩ : LineageSource)) = some y :=
      Option.isSome_iff_exists.mp (List.find?_isSome.mpr ⟨x, hx, by simp [same]⟩)
    have found := List.find?_some hy
    simp only [Function.comp_apply, beq_iff_eq] at found
    rw [hy, Option.map_some, found]
  case isFalse missing =>
    rw [Option.map_eq_none_iff, List.find?_eq_none]
    intro x hx same
    exact missing (kept.mp ⟨x, hx, by simpa using same⟩)

end FromEntry

namespace Query

/-- Users have names, and orders have totals; both have an id. -/
def shop : BuildContext :=
  ⟨.postgres, [⟨"users", [{ name := "id" }, { name := "name" }]⟩,
    ⟨"orders", [{ name := "id" }, { name := "total" }]⟩]⟩

/-- `SELECT total, u.id FROM users AS u JOIN Orders ON u.id = Orders.id` -/
def orderTotals : Selection :=
  let same : Sql.Expr := .of (.binary .equal)
    [.of (.column [.bare "u", .bare "id"]), .of (.column [.bare "Orders", .bare "id"])]
  ⟨[⟨.of (.column [.bare "total"]), none⟩, ⟨.of (.column [.bare "u", .bare "id"]), none⟩],
    [⟨"users", some "u", none⟩, ⟨"Orders", none, some ⟨.inner, some same⟩⟩], none, [], [], none⟩

variable {ctx : BuildContext} {s : Selection} {i : Nat} {item : SelectItem} {c : String}

/-- Some sources of a column are those that the order of the entries gives it: the column of the
first table that is known to have it, and nothing if there is none. -/
structure FirstOf (ctx : BuildContext) (column : String) (entries : List FromEntry)
    (sources : List LineageSource) : Prop where
  found : ∀ front e rest, entries = front ++ e :: rest → ctx.Lists e.table column →
    (∀ x ∈ front, ¬ ctx.Lists x.table column) → sources = [⟨e.table, column⟩]
  missing : (∀ e ∈ entries, ¬ ctx.Lists e.table column) → sources = []

theorem firstOf_iff {entries : List FromEntry} {sources : List LineageSource} :
    FirstOf ctx c entries sources ↔
      sources = ((ctx.owner? c entries).map fun table => ⟨table, c⟩).toList := by
  cases owner : ctx.owner? c entries with
  | none =>
    have missing := BuildContext.owner?_eq_none_iff.mp owner
    refine ⟨fun h => h.missing missing, fun same => ⟨?_, fun _ => same⟩⟩
    rintro front e rest rfl lists
    exact absurd lists (missing e (by simp))
  | some table =>
    obtain ⟨front, e, rest, split, rfl, lists, before⟩ := BuildContext.owner?_eq_some_iff.mp owner
    refine ⟨fun h => h.found front e rest split lists before, fun same => ⟨?_, fun missing => ?_⟩⟩
    · intro front' e' rest' split' lists' before'
      have owner' : ctx.owner? c entries = some e'.table :=
        BuildContext.owner?_eq_some_iff.mpr ⟨front', e', rest', split', rfl, lists', before'⟩
      rw [owner] at owner'
      rw [same, Option.some.inj owner']
      rfl
    · exact absurd lists (missing e (by rw [split]; simp))

/-- A column without a qualifier, in a SELECT over tables, comes from the first table that is known
to have it among those that are reached. So it comes from the first one of all tables exactly when
that is the same one. No other part of the SELECT plays a role, except that the reserved qualifier
must not be written. -/
theorem unqualified_in_from_order_iff (hi : s.items[i]? = some item) (plain : item.Plain c)
    (free : ∀ x ∈ Usage.expressionsOf s, ∀ r ∈ x.references, r.table ≠ some Usage.unqualified) :
    ∃ entry, ((Query.select s).graph ctx).lineage[i]? = some entry ∧
      FirstOf ctx c (FromEntry.reached s.entries) entry.sources ∧
      (FirstOf ctx c s.entries entry.sources ↔
        ctx.owner? c s.entries = ctx.owner? c (FromEntry.reached s.entries)) := by
  have covers := Usage.ofSelection_covers (List.mem_of_getElem? hi) plain free
  have found : ((Query.select s).search ctx (Builder.columnOf ctx.dialect item)).sources =
      ((ctx.owner? c (FromEntry.reached s.entries)).map fun table => ⟨table, c⟩).toList := by
    have listed : (Query.select s).listed ctx =
        (FromEntry.reached s.entries).flatMap fun e =>
          (e.inflow ctx [] (Usage.ofSelection s)).listed :=
      s.inflow_listed_eq ctx []
    have owned (e : FromEntry) :
        (if ctx.Lists e.table c then some (⟨e.table, c⟩ : LineageSource) else none) =
          (if ctx.Lists e.table c then some e.table else none).map fun table => ⟨table, c⟩ := by
      split <;> rfl
    rw [plain.columnOf_eq, search_of_no_meaning rfl, answeredBy_plain, listed, List.find?_flatMap]
    simp only [FromEntry.find?_listed _ covers, owned, BuildContext.owner?, List.map_findSome?]
    rfl
  refine ⟨_, (Query.select s).lineage_item ctx hi, firstOf_iff.mpr found, ?_⟩
  rw [firstOf_iff, found]
  cases ctx.owner? c s.entries <;> cases ctx.owner? c (FromEntry.reached s.entries) <;>
    simp [eq_comm]

/-- The total belongs to the second table, whose name is written in other letters. -/
theorem unqualified_in_from_order_second :
    (∀ x ∈ Usage.expressionsOf orderTotals, ∀ r ∈ x.references, r.table ≠ some Usage.unqualified) ∧
      ∃ entry, ((Query.select orderTotals).graph shop).lineage[0]? = some entry ∧
        entry.sources = [⟨"Orders", "total"⟩] := by
  have free : ∀ x ∈ Usage.expressionsOf orderTotals, ∀ r ∈ x.references,
      r.table ≠ some Usage.unqualified := by decide +kernel
  obtain ⟨entry, he, _, inOrder⟩ := @unqualified_in_from_order_iff shop orderTotals 0 _ "total" rfl
    ⟨rfl, _, rfl, rfl⟩ free
  refine ⟨free, entry, he, (inOrder.mpr rfl).found [⟨"users", some "u", none⟩] _ [] rfl ?_ ?_⟩
  · decide +kernel
  · decide +kernel

/-- Only `a` has an `x`. -/
def lettered : BuildContext :=
  ⟨.postgres, [⟨"a", [{ name := "x" }]⟩, ⟨"b", [{ name := "y" }]⟩]⟩

/-- Behind a JOIN that says nothing else, the first table is cut off, and its column comes from
nowhere. -/
theorem unqualified_out_of_from_order :
    ∃ statement q entry,
      Sql.readSingle lettered.dialect "SELECT x FROM a JOIN b" = .ok statement ∧
      Query.ofStatement? statement = some q ∧
      (q.graph lettered).lineage[0]? = some entry ∧ entry.output = "x" ∧
      ¬ FirstOf lettered "x" q.body.entries entry.sources := by
  have read : ((Sql.readSingle lettered.dialect "SELECT x FROM a JOIN b").toOption.bind
      Query.ofStatement?).any (fun q => q.body.entries.map (·.table) == ["a", "b"] &&
        (q.graph lettered).lineage == [⟨"x", []⟩]) = true := by decide +kernel
  have lists : lettered.Lists "a" "x" := by decide +kernel
  cases single : Sql.readSingle lettered.dialect "SELECT x FROM a JOIN b" with
  | error _ =>
    rw [single] at read
    cases read
  | ok statement =>
    rw [single] at read
    obtain ⟨q, found, shape⟩ := (Option.any_eq_true _ _).mp read
    obtain ⟨tables, untraced⟩ := Bool.and_eq_true_iff.mp shape
    refine ⟨statement, q, ⟨"x", []⟩, rfl, found, by rw [eq_of_beq untraced]; rfl, rfl, ?_⟩
    intro inOrder
    obtain ⟨e, rest, split, first, -⟩ := List.map_eq_cons_iff.mp (eq_of_beq tables)
    cases inOrder.found [] e rest split (first ▸ lists) nofun

end Query

end QueryFlow
