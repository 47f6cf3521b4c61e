import QueryFlow.Proofs.Lineage.Resolve

/-!
What the name of an output column does to its lineage. A column whose source is known keeps its
lineage under any name. Every other column is looked for among the listed columns under its output
name as well as under the name of its source, so an output name that comes first there is answered
instead of the source. The results say exactly when that happens, for items with a source and for
items that refer to no column at all.
-/

namespace QueryFlow

open Lineage

def Selection.withItem (s : Selection) (i : Nat) (item : SelectItem) : Selection :=
  { s with items := s.items.set i item }

namespace Query

variable (ctx : BuildContext) (q : Query) (i : Nat) (item : SelectItem)

/-- The query with another item in one place of its main select list. -/
def withItem : Query → Query
  | .select s => .select (s.withItem i item)
  | .withBindings bs s recursive => .withBindings bs (s.withItem i item) recursive

@[simp] theorem withItem_bindings : (q.withItem i item).bindings = q.bindings := by
  cases q <;> rfl

@[simp] theorem withItem_body : (q.withItem i item).body = q.body.withItem i item := by
  cases q <;> rfl

@[simp] theorem withItem_namedCalls : (q.withItem i item).namedCalls = q.namedCalls := by
  simp [namedCalls]

@[simp] theorem withItem_tableEntries : (q.withItem i item).tableEntries = q.tableEntries := by
  simp [tableEntries_eq, Selection.withItem]

@[simp] theorem withItem_offers : (q.withItem i item).offers ctx = q.offers ctx := by
  simp [offers]

@[simp] theorem withItem_names : (q.withItem i item).names ctx = q.names ctx := by
  simp [names]

theorem withItem_length :
    ((q.withItem i item).graph ctx).nodes.length = (q.graph ctx).nodes.length := by
  simp [graph_length, Selection.withItem, Selection.steps]

/-- The item of one place decides nothing about the search for a column, as long as the tables list
the same columns. -/
theorem search_withItem (h : (q.withItem i item).inflow ctx = q.inflow ctx) (col : ColumnRef) :
    (q.withItem i item).search ctx col = q.search ctx col := by
  rw [search, search, withItem_names, withItem_length, h]

end Query

/-- What a SELECT uses is decided by its expressions. -/
theorem Usage.ofSelection_congr {s s' : Selection}
    (items : s'.items.map (·.expr) = s.items.map (·.expr))
    (rest : s' = { s with items := s'.items }) : ofSelection s' = ofSelection s := by
  have stars : ∀ t : Selection, t.items.any isStar =
      (t.items.map (·.expr)).any fun e => isStar ⟨e, none⟩ := by
    intro t
    rw [List.any_map]
    rfl
  have used : expressionsOf s' = expressionsOf s := by
    rw [rest, expressionsOf, expressionsOf, ← items]
  rw [ofSelection, ofSelection, stars, stars, items, used]

/-- The item under another alias, or under none. -/
def SelectItem.renamed (item : SelectItem) (shown : Option String) : SelectItem :=
  { item with «alias» := shown }

theorem Selection.usage_renamed {s : Selection} {i : Nat} {item : SelectItem}
    (hi : s.items[i]? = some item) (shown : Option String) :
    Usage.ofSelection (s.withItem i (item.renamed shown)) = Usage.ofSelection s := by
  refine Usage.ofSelection_congr ?_ rfl
  obtain ⟨inside, rfl⟩ := List.getElem?_eq_some_iff.mp hi
  calc (s.items.set i (s.items[i].renamed shown)).map (·.expr)
      = (s.items.set i s.items[i]).map (·.expr) := by rw [List.map_set, List.map_set]; rfl
    _ = s.items.map (·.expr) := by rw [List.set_getElem_self]

theorem Selection.inflow_withItem {ctx : BuildContext} {s : Selection} {i : Nat} {item : SelectItem}
    (offers : List Offer) (h : Usage.ofSelection (s.withItem i item) = Usage.ofSelection s) :
    (s.withItem i item).inflow ctx offers = s.inflow ctx offers := by
  simp only [inflow, chain, h]
  rfl

/-- The names of the listed columns in front of the first one that has the source's name. -/
def inFront (listed : List LineageSource) (source : Option String) : List String :=
  (listed.takeWhile fun s => some s.column != source).map (·.column)

theorem toList_eq_iff {α : Type} {a b : Option α} : a.toList = b.toList ↔ a = b := by
  cases a <;> cases b <;> simp

section Front

variable {listed : List LineageSource} {name other : String} {source : Option String}

theorem find?_of_notMem_inFront (h : name ∉ inFront listed source) :
    listed.find? (fun s => s.column == name || some s.column == source) =
      listed.find? fun s => some s.column == source := by
  induction listed with
  | nil => rfl
  | cons s rest ih =>
    by_cases is : some s.column = source
    · simp [is]
    · simp only [inFront, List.takeWhile_cons, bne_iff_ne, ne_eq, is, not_false_eq_true, if_true,
        List.map_cons, List.mem_cons, not_or] at h
      have other : (s.column == name) = false := by simp [Ne.symm h.1]
      have not : (some s.column == source) = false := by simp [is]
      simp only [List.find?_cons, other, not, Bool.or_false]
      exact ih h.2

theorem find?_of_mem_inFront (h : name ∈ inFront listed source) :
    ∃ s, listed.find? (fun s => s.column == name || some s.column == source) = some s ∧
      s.column = name ∧ some name ≠ source := by
  induction listed with
  | nil => simp [inFront] at h
  | cons s rest ih =>
    by_cases is : some s.column = source
    · simp [inFront, is] at h
    · by_cases same : s.column = name
      · exact ⟨s, by simp [same], same, same ▸ is⟩
      · simp only [inFront, List.takeWhile_cons, bne_iff_ne, ne_eq, is, not_false_eq_true,
          if_true, List.map_cons, List.mem_cons, Ne.symm same, false_or] at h
        obtain ⟨found, hf, hname⟩ := ih h
        refine ⟨found, ?_, hname⟩
        simpa [is, same] using hf

/-- Two names give the same answer exactly when they are one name or neither of them comes in front
of the source. -/
theorem find?_eq_iff :
    listed.find? (fun s => s.column == other || some s.column == source) =
        listed.find? (fun s => s.column == name || some s.column == source) ↔
      other = name ∨ (name ∉ inFront listed source ∧ other ∉ inFront listed source) := by
  constructor
  -- A name in front is answered itself, which neither the other name nor the source would be.
  · intro same
    by_cases eq : other = name
    · exact Or.inl eq
    refine Or.inr ⟨fun mem => ?_, fun mem => ?_⟩
    · obtain ⟨s, hs, rfl, away⟩ := find?_of_mem_inFront mem
      have := List.find?_some (same.trans hs)
      simp [Ne.symm eq, away] at this
    · obtain ⟨s, hs, rfl, away⟩ := find?_of_mem_inFront mem
      have := List.find?_some (same.symm.trans hs)
      simp [eq, away] at this
  · rintro (rfl | ⟨h, h'⟩)
    · rfl
    · rw [find?_of_notMem_inFront h, find?_of_notMem_inFront h']

end Front

namespace SelectItem

variable (d : Sql.Dialect) (item : SelectItem)

theorem columnOf_renamed (shown : Option String) :
    (Builder.columnOf d (item.renamed shown)).sourceTable = (Builder.columnOf d item).sourceTable ∧
      (Builder.columnOf d (item.renamed shown)).sourceColumn =
        (Builder.columnOf d item).sourceColumn := by
  unfold Builder.columnOf renamed
  cases item.expr.form <;> exact ⟨rfl, rfl⟩

/-- An item that refers to no column names no source. -/
theorem columnOf_of_no_references (h : item.expr.references = []) :
    (Builder.columnOf d item).sourceTable = none ∧
      (Builder.columnOf d item).sourceColumn = none := by
  obtain ⟨⟨form, notes, operands⟩, shown⟩ := item
  have none : Reference.ofForm? form = none := by
    rw [Sql.Expr.references, Sql.Expr.subterms, List.filterMap_eq_nil_iff] at h
    exact h _ List.mem_cons_self
  unfold Builder.columnOf
  simp only [Sql.Expr.form, h]
  cases form <;> first | exact ⟨rfl, rfl⟩ | cases none

end SelectItem

namespace Query

variable (ctx : BuildContext) (q : Query)

/-- The column names its source, and the name is that of a named query or of a table that is read
somewhere. -/
def Places (col : ColumnRef) : Prop :=
  (given? col.sourceColumn).isSome = true ∧ ∃ name, given? col.sourceTable = some name ∧
    ((∃ e ∈ q.tableEntries, e.knownAs name = true) ∨ ∃ x ∈ q.bindings, x.name = name)

theorem meaning?_isSome_iff (col : ColumnRef) :
    ((q.names ctx).meaning? col).isSome = true ↔ q.Places col := by
  have offers (name : String) : ((q.offers ctx).find? (·.name == name)).isSome = true ↔
      ∃ x ∈ q.bindings, x.name = name := by
    have mem : name ∈ (q.offers ctx).map (·.name) ↔ name ∈ q.bindings.map (·.name) := by
      rw [q.offers_names]
    simpa [List.find?_isSome] using mem
  unfold Places Names.meaning?
  cases given? col.sourceTable with
  | none => simp
  | some name =>
    cases given? col.sourceColumn with
    | none => simp
    | some column =>
      simp only [names, Option.isSome_some, true_and, Option.some.injEq, exists_eq_left',
        ← offers, ← List.find?_isSome]
      cases q.tableEntries.find? (·.knownAs name) with
      | some e => simp
      | none => simp

/-- The names of the listed columns in front of the source of an item. -/
def namesBefore (item : SelectItem) : List String :=
  inFront (q.listed ctx) (Builder.columnOf ctx.dialect item).sourceColumn

theorem withItem_item {q : Query} {i : Nat} {item : SelectItem} (hi : q.body.items[i]? = some item)
    (other : SelectItem) : (q.withItem i other).body.items[i]? = some other := by
  have inside : i < q.body.items.length := (List.getElem?_eq_some_iff.mp hi).1
  simp [Selection.withItem, inside]

/-- Users have an id and a name. -/
def users : BuildContext := ⟨.postgres, [⟨"users", [{ name := "id" }, { name := "name" }]⟩]⟩

/-- `name AS shown` -/
def namedItem (shown : String) : SelectItem := ⟨.of (.column [.bare "name"]), some shown⟩

/-- `SELECT name AS shown, id FROM users` -/
def twoNames (shown : String) : Query :=
  .select ⟨[namedItem shown, ⟨.of (.column [.bare "id"]), none⟩], [⟨"users", none, none⟩], none,
    [], [], none⟩

/-- `SELECT 1 AS shown, id FROM users` -/
def constantItem (shown : String) : Query :=
  .select ⟨[⟨.of (.number "1"), some shown⟩, ⟨.of (.column [.bare "id"]), none⟩],
    [⟨"users", none, none⟩], none, [], [], none⟩

section Item

variable {ctx q} {i : Nat} {item : SelectItem}

/-- Another alias leaves the lineage of an item as it is exactly when the column's source is known,
when the output keeps its name, or when neither the old nor the new name comes in front of the
source among the listed columns. -/
theorem renamed_sources_iff (hi : q.body.items[i]? = some item) (shown : Option String) :
    ∃ entry renamed, (q.graph ctx).lineage[i]? = some entry ∧
      ((q.withItem i (item.renamed shown)).graph ctx).lineage[i]? = some renamed ∧
      (renamed.sources = entry.sources ↔
        q.Places (Builder.columnOf ctx.dialect item) ∨ renamed.output = entry.output ∨
          (entry.output ∉ q.namesBefore ctx item ∧ renamed.output ∉ q.namesBefore ctx item)) := by
  have inflow : (q.withItem i (item.renamed shown)).inflow ctx = q.inflow ctx := by
    rw [Query.inflow, Query.inflow, withItem_body, withItem_offers,
      Selection.inflow_withItem _ (Selection.usage_renamed hi shown)]
  have search := q.search_withItem ctx i (item.renamed shown) inflow
  obtain ⟨table, column⟩ := item.columnOf_renamed ctx.dialect shown
  refine ⟨_, _, q.lineage_item ctx hi, lineage_item ctx _ (withItem_item hi _), ?_⟩
  cases hm : (q.names ctx).meaning? (Builder.columnOf ctx.dialect item) with
  | some m =>
    have places := (q.meaning?_isSome_iff ctx _).mp (Option.isSome_iff_exists.mpr ⟨m, hm⟩)
    simp only [search, search_of_meaning hm table column, places, true_or]
  | none =>
    have away : ¬ q.Places (Builder.columnOf ctx.dialect item) := fun places => by
      have := (q.meaning?_isSome_iff ctx _).mpr places
      simp [hm] at this
    have hm' : (q.names ctx).meaning? (Builder.columnOf ctx.dialect (item.renamed shown)) =
        none := by
      rw [← hm, Names.meaning?, Names.meaning?, table, column]
    simp only [search, search_of_no_meaning hm, search_of_no_meaning hm', away, false_or,
      toList_eq_iff]
    have answers (col : ColumnRef) : col.answeredBy =
        fun s => s.column == col.name || some s.column == col.sourceColumn := rfl
    rw [answers, answers, column]
    exact find?_eq_iff

/-- `SELECT name AS n, id FROM users` and `SELECT name, id FROM users` -/
theorem renamed_sources_plain :
    ∃ entry renamed, ((twoNames "n").graph users).lineage[0]? = some entry ∧
      (((twoNames "n").withItem 0 ((namedItem "n").renamed none)).graph users).lineage[0]? =
        some renamed ∧ renamed.sources = entry.sources := by
  obtain ⟨entry, renamed, he, hr, same⟩ :=
    @renamed_sources_iff users (twoNames "n") 0 (namedItem "n") rfl none
  have aliased : ((twoNames "n").graph users).lineage[0]? = some ⟨"n", [⟨"users", "name"⟩]⟩ := by
    decide +kernel
  have plain : (((twoNames "n").withItem 0 ((namedItem "n").renamed none)).graph
      users).lineage[0]? = some ⟨"name", [⟨"users", "name"⟩]⟩ := by
    decide +kernel
  refine ⟨entry, renamed, he, hr, same.mpr (Or.inr (Or.inr ?_))⟩
  rw [aliased] at he
  rw [plain] at hr
  cases he
  cases hr
  decide +kernel

/-- An item that refers to no column has no source exactly when no table above the output lists a
column of the item's name. -/
theorem constant_unresolved_iff (hi : q.body.items[i]? = some item)
    (constant : item.expr.references = []) :
    ∃ entry, (q.graph ctx).lineage[i]? = some entry ∧
      (entry.sources = [] ↔ ∀ s ∈ q.listed ctx, s.column ≠ entry.output) := by
  obtain ⟨table, column⟩ := item.columnOf_of_no_references ctx.dialect constant
  have none : (q.names ctx).meaning? (Builder.columnOf ctx.dialect item) = none := by
    rw [Names.meaning?, table]
    rfl
  refine ⟨_, q.lineage_item ctx hi, ?_⟩
  rw [search_of_no_meaning none, Option.toList_eq_nil_iff, List.find?_eq_none]
  simp [ColumnRef.answeredBy, column]

/-- `SELECT 1 AS one, id FROM users` -/
theorem constant_unresolved_one :
    ∃ entry, ((constantItem "one").graph users).lineage[0]? = some entry ∧ entry.sources = [] := by
  obtain ⟨entry, he, answered⟩ := @constant_unresolved_iff users (constantItem "one") 0 _ rfl rfl
  have found : ((constantItem "one").graph users).lineage[0]? = some ⟨"one", []⟩ := by
    decide +kernel
  refine ⟨entry, he, answered.mpr ?_⟩
  rw [found] at he
  cases he
  decide +kernel

/-- The alias of the name is the name of another column, which is listed first. -/
theorem renamed_sources_differ :
    ¬ ∀ (ctx : BuildContext) (q : Query) (i : Nat) (item : SelectItem) (shown : Option String),
      q.body.items[i]? = some item → item.expr.form ≠ .star →
      ∃ entry renamed, (q.graph ctx).lineage[i]? = some entry ∧
        ((q.withItem i (item.renamed shown)).graph ctx).lineage[i]? = some renamed ∧
        renamed.sources = entry.sources := by
  intro h
  obtain ⟨entry, renamed, he, hr, same⟩ :=
    h users (twoNames "id") 0 (namedItem "id") none rfl
      (by simp [namedItem, Sql.Expr.of, Sql.Expr.form])
  have aliased : ((twoNames "id").graph users).lineage[0]? = some ⟨"id", [⟨"users", "id"⟩]⟩ := by
    decide +kernel
  have plain : (((twoNames "id").withItem 0 ((namedItem "id").renamed none)).graph
      users).lineage[0]? = some ⟨"name", [⟨"users", "name"⟩]⟩ := by
    decide +kernel
  rw [aliased] at he
  rw [plain] at hr
  cases he
  cases hr
  exact absurd same (by decide)

/-- The number goes by the name of a listed column. -/
theorem constant_resolved :
    ¬ ∀ (ctx : BuildContext) (q : Query) (i : Nat) (item : SelectItem),
      q.body.items[i]? = some item → item.expr.references = [] →
      ∃ entry, (q.graph ctx).lineage[i]? = some entry ∧ entry.sources = [] := by
  intro h
  obtain ⟨entry, he, none⟩ := h users (constantItem "id") 0 _ rfl rfl
  have found : ((constantItem "id").graph users).lineage[0]? =
      some ⟨"id", [⟨"users", "id"⟩]⟩ := by decide +kernel
  rw [found] at he
  cases he
  exact absurd none (by decide)

end Item

end Query

end QueryFlow
