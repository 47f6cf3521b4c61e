import QueryFlow.Proofs.Lineage.Naming

/-!
Columns that are read through the result of a named query. When a query is given a new name and its
columns are selected by that name, each column keeps the lineage that it had, or else stands for
itself. This is shown by comparing the two searches: behind the new name the second one is the
first one with more room to go deeper. A column without a qualifier is not read in this way: what
decides it is the columns that the tables above the result list, and not the columns of the result.
-/

namespace QueryFlow

open Lineage

namespace SelectItem

/-- A qualifier of the column that an item gives is one that the item is written with. -/
theorem reference_of_sourceTable {d : Sql.Dialect} {item : SelectItem} {t : String}
    (h : (Builder.columnOf d item).sourceTable = some t) :
    ∃ r ∈ item.expr.references, r.table = some t := by
  obtain ⟨⟨form, notes, operands⟩, shown⟩ := item
  have head : ∀ r, Reference.ofForm? form = some r →
      r ∈ (Sql.Expr.node form notes operands).references := by
    intro r hr
    rw [Sql.Expr.references, Sql.Expr.subterms]
    exact List.mem_filterMap.mpr ⟨_, List.mem_cons_self, hr⟩
  unfold Builder.columnOf at h
  simp only [Sql.Expr.form] at h
  cases form with
  | star => cases h
  | column path => exact ⟨_, head _ rfl, h⟩
  | allOf path => exact ⟨_, head _ rfl, h⟩
  | _ =>
    obtain ⟨r, hr, ht⟩ := Option.bind_eq_some_iff.mp h
    exact ⟨r, List.mem_of_mem_head? hr, ht⟩

/-- A column as it is selected by the name of its table. -/
def qualified (t c : String) : SelectItem :=
  ⟨.of (if c = "*" then .allOf [.ofText t] else .column [.ofText t, .ofText c]), none⟩

theorem qualified_refers {t : String} (ht : t ≠ "") (c : String) : (qualified t c).Refers t c := by
  have name : nonEmpty? t = some t := nonEmpty?_eq_some.mpr ⟨rfl, ht⟩
  unfold Refers qualified
  simp only [Sql.Expr.of, Sql.Expr.form]
  split
  case isTrue star =>
    simp [star, Reference.ofForm?, Reference.allOf, Sql.Name.ofText, name]
  case isFalse =>
    simp [Reference.ofForm?, Reference.ofPath, Sql.Name.ofText, name]

/-- The item is a column that is written without a qualifier and goes by its own name. -/
def Plain (item : SelectItem) (c : String) : Prop :=
  item.alias = none ∧ ∃ path, item.expr.form = .column path ∧ Reference.ofPath path = ⟨none, c⟩

theorem Plain.columnOf_eq {item : SelectItem} {c : String} (h : item.Plain c) (d : Sql.Dialect) :
    Builder.columnOf d item = ⟨c, none, some c, none⟩ := by
  obtain ⟨shown, path, form, reference⟩ := h
  unfold Builder.columnOf
  simp only [form, reference, shown, Option.getD_none]

end SelectItem

namespace Lineage.Names

/-- The same names and one more offer. -/
def offering (w : Names) (o : Offer) : Names := ⟨w.tables, w.offers ++ [o]⟩

variable {w : Names} {o : Offer} {col : ColumnRef} {f : Inflow} {fuel : Nat}

theorem meaning?_offering (h : col.sourceTable ≠ some o.name) :
    (w.offering o).meaning? col = w.meaning? col := by
  have other (name : String) (hn : given? col.sourceTable = some name) :
      (w.offers ++ [o]).find? (·.name == name) = w.offers.find? (·.name == name) := by
    have ne : o.name ≠ name := by
      rintro rfl
      exact h (given?_eq_some.mp hn).1
    simp [List.find?_append, ne]
  unfold meaning? offering
  cases hn : given? col.sourceTable with
  | none => rfl
  | some name =>
    cases given? col.sourceColumn with
    | none => rfl
    | some column => simp only [other name hn]

/-- One more offer changes nothing for columns that do not name it. -/
theorem resolve_offering (h : col.sourceTable ≠ some o.name)
    (closed : ∀ x ∈ w.offers, ∀ inner ∈ x.columns, inner.sourceTable ≠ some o.name) :
    (w.offering o).resolve fuel col f = w.resolve fuel col f := by
  induction fuel generalizing col f with
  | zero => rfl
  | succ fuel ih =>
    rw [resolve, resolve, meaning?_offering h]
    cases hm : w.meaning? col with
    | none => rfl
    | some m =>
      cases m with
      | table source => rfl
      | offer x column =>
        exact inOffer_congr fun inner hi => ih (closed x (mem_of_meaning?_offer hm) inner hi)

end Lineage.Names

/-- Some columns of the result of a name. -/
def Selection.ofResult (t : String) (names : List String) : Selection :=
  ⟨names.map (.qualified t), [⟨t, none, none⟩], none, [], [], none⟩

namespace Query

variable (ctx : BuildContext) (q : Query) (t : String) (names : List String)

/-- The query under a name of its own, of which some columns are selected. -/
def handedOn : Query → Query
  | .select s => .withBindings [⟨t, s⟩] (.ofResult t names) false
  | .withBindings bs s recursive => .withBindings (bs ++ [⟨t, s⟩]) (.ofResult t names) recursive

@[simp] theorem handedOn_bindings :
    (q.handedOn t names).bindings = q.bindings ++ [⟨t, q.body⟩] := by
  cases q <;> rfl

@[simp] theorem handedOn_body : (q.handedOn t names).body = .ofResult t names := by
  cases q <;> rfl

theorem handedOn_namedCalls :
    (q.handedOn t names).namedCalls = q.namedCalls ++ [.named t q.body] := by
  simp [namedCalls]

/-- What the query offers under a name. -/
def asOffer : Offer := ⟨t, Builder.columnsOf ctx.dialect q.body, q.inflow ctx⟩

theorem handedOn_offers :
    (q.handedOn t names).offers ctx = q.offers ctx ++ [q.asOffer ctx t] := by
  rw [offers, handedOn_bindings, List.foldl_append]
  rfl

theorem handedOn_tableEntries : (q.handedOn t names).tableEntries = q.tableEntries := by
  rw [tableEntries_eq, tableEntries_eq, handedOn_namedCalls, Builder.tableEntries_append,
    namedCalls_names]
  simp [Builder.tableEntries, Builder.Call.body, Selection.ofResult]

theorem handedOn_names :
    (q.handedOn t names).names ctx = (q.names ctx).offering (q.asOffer ctx t) := by
  rw [Query.names, handedOn_tableEntries, handedOn_offers]
  rfl

theorem handedOn_length :
    ((q.handedOn t names).graph ctx).nodes.length = (q.graph ctx).nodes.length + 2 := by
  have main : (Selection.ofResult t names).steps = 0 := rfl
  rw [graph_length, graph_length, handedOn_tableEntries, handedOn_namedCalls, handedOn_body, main,
    List.map_append, List.sum_append]
  simp only [List.map_cons, List.map_nil, List.sum_cons, List.sum_nil, Builder.Call.steps]
  omega

/-- A name that the query does not use: no table, alias or named query has it, and no item is
written with it as a qualifier. An empty text is no name, since it does not qualify anything. -/
structure Unused : Prop where
  nonempty : t ≠ ""
  entries : ∀ call ∈ q.calls, ∀ e ∈ call.body.entries, e.knownAs t = false
  bindings : ∀ x ∈ q.bindings, x.name ≠ t
  qualifiers : ∀ call ∈ q.calls, ∀ item ∈ call.body.items, ∀ r ∈ item.expr.references,
    r.table ≠ some t

variable {q t}

namespace Unused

variable (h : q.Unused t)

include h

theorem tables : q.tableEntries.find? (·.knownAs t) = none := by
  refine List.find?_eq_none.mpr fun e he => ?_
  obtain ⟨call, hc, hi⟩ := Builder.mem_tableEntries he
  simp [h.entries call hc e hi]

theorem columns (d : Sql.Dialect) {call : Builder.Call} (hc : call ∈ q.calls) :
    ∀ col ∈ Builder.columnsOf d call.body, col.sourceTable ≠ some t := by
  intro col hcol same
  obtain ⟨item, hi, rfl⟩ := List.mem_map.mp hcol
  obtain ⟨r, hr, ht⟩ := SelectItem.reference_of_sourceTable same
  exact h.qualifiers call hc item hi r hr ht

theorem main_columns (d : Sql.Dialect) :
    ∀ col ∈ Builder.columnsOf d q.body, col.sourceTable ≠ some t := by
  have main : Builder.Call.main q.body ∈ q.calls := by simp [calls]
  exact h.columns d main

theorem offers {o : Offer} (ho : o ∈ q.offers ctx) :
    o.name ≠ t ∧ ∀ col ∈ o.columns, col.sourceTable ≠ some t := by
  have mem : (o.name, o.columns) ∈ (q.offers ctx).map fun o => (o.name, o.columns) :=
    List.mem_map_of_mem ho
  rw [offers_map] at mem
  obtain ⟨x, hx, same⟩ := List.mem_map.mp mem
  obtain ⟨hname, hcols⟩ := Prod.mk.inj same
  have taken : Builder.Call.named x.name x.body ∈ q.calls :=
    List.mem_append_left _ (List.mem_map_of_mem hx)
  exact ⟨hname ▸ h.bindings x hx, hcols ▸ h.columns ctx.dialect taken⟩

end Unused

variable {ctx names}

/-- The new name means the query behind it. -/
theorem meaning?_handedOn (h : q.Unused t) {c : String} (hc : c ≠ "") :
    ((q.handedOn t names).names ctx).meaning? ⟨c, some t, some c, none⟩ =
      some (.offer (q.asOffer ctx t) c) := by
  have first : (q.offers ctx ++ [q.asOffer ctx t]).find? (·.name == t) =
      some (q.asOffer ctx t) := by
    rw [List.find?_append, List.find?_eq_none.mpr fun x hx => by simp [(h.offers ctx hx).1]]
    simp [asOffer]
  rw [handedOn_names]
  simp only [Names.meaning?, Names.offering, Query.names, given?_eq_some.mpr ⟨rfl, hc⟩,
    given?_eq_some.mpr ⟨rfl, h.nonempty⟩, h.tables, first, Option.map_some]

/-- One step below the output of the new query, the search is that of the old one with more fuel. -/
theorem resolve_handedOn (h : q.Unused t) {inner : ColumnRef}
    (own : inner ∈ Builder.columnsOf ctx.dialect q.body) (uncut : (q.search ctx inner).cut = []) :
    ((q.handedOn t names).names ctx).resolve ((q.handedOn t names).graph ctx).nodes.length inner
      (q.inflow ctx) = q.search ctx inner := by
  have other : inner.sourceTable ≠ some (q.asOffer ctx t).name :=
    h.main_columns ctx.dialect inner own
  have closed : ∀ x ∈ (q.names ctx).offers, ∀ col ∈ x.columns,
      col.sourceTable ≠ some (q.asOffer ctx t).name := fun x hx => (h.offers ctx hx).2
  rw [handedOn_names, handedOn_length, Names.resolve_offering other closed]
  exact Names.resolve_mono (by omega) uncut

/-- A column that is selected by the new name has the lineage of the column it stands for, or
stands for itself. -/
theorem search_handedOn (h : q.Unused t) {c : String} (hc : c ≠ "") {inner : ColumnRef}
    (hi : (Builder.columnsOf ctx.dialect q.body).find? (·.name == c) = some inner)
    (uncut : (q.search ctx inner).cut = []) :
    ((q.handedOn t names).search ctx ⟨c, some t, some c, none⟩).sources =
      if (given? inner.sourceColumn).isSome = true ∧ (q.search ctx inner).sources ≠ [] then
        (q.search ctx inner).sources
      else [⟨t, c⟩] := by
  rw [search, Names.resolve, meaning?_handedOn h hc]
  simp only [inOffer, asOffer, hi, resolve_handedOn h (List.mem_of_find?_eq_some hi) uncut]
  cases hn : given? inner.sourceColumn with
  | none => rfl
  | some column =>
    cases hs : (q.search ctx inner).sources with
    | nil => simp [orStand, hs]
    | cons s rest => simp [orStand, hs]

/-- Lineage is handed on. When a query gets a name of its own and columns of it are selected by that
name, each of them has the lineage of the first column of its name, if that column names a source
and has a lineage, and stands for itself otherwise. This needs that no search in the query is cut
off. -/
theorem lineage_handedOn (fresh : q.Unused t)
    (known : ∀ c ∈ names, c ≠ "" ∧ c ∈ (Builder.columnsOf ctx.dialect q.body).map (·.name))
    (uncut : ∀ x ∈ trails (q.graph ctx), x.2.cut = []) :
    ((q.handedOn t names).graph ctx).lineage.map (·.output) = names ∧
      ∀ entry ∈ ((q.handedOn t names).graph ctx).lineage, ∃ col origin,
        ((Builder.columnsOf ctx.dialect q.body).zip (q.graph ctx).lineage).find?
          (·.1.name == entry.output) = some (col, origin) ∧
        entry.sources =
          if (given? col.sourceColumn).isSome = true ∧ origin.sources ≠ [] then origin.sources
          else [⟨t, entry.output⟩] := by
  have columns : Builder.columnsOf ctx.dialect (q.handedOn t names).body =
      names.map fun c => ⟨c, some t, some c, none⟩ := by
    rw [handedOn_body, Builder.columnsOf, Selection.ofResult, List.map_map]
    exact List.map_congr_left fun c _ =>
      (SelectItem.qualified_refers fresh.nonempty c).columnOf_eq ctx.dialect
  rw [lineage_eq, columns]
  refine ⟨by simp [Function.comp_def], fun entry he => ?_⟩
  simp only [List.map_map, List.mem_map, Function.comp_apply] at he
  obtain ⟨c, hc, rfl⟩ := he
  obtain ⟨hne, hmem⟩ := known c hc
  obtain ⟨x, hx, rfl⟩ := List.mem_map.mp hmem
  obtain ⟨col, hi⟩ : ∃ col, (Builder.columnsOf ctx.dialect q.body).find? (·.name == x.name) =
      some col := Option.isSome_iff_exists.mp (List.find?_isSome.mpr ⟨x, hx, by simp⟩)
  have whole : (q.search ctx col).cut = [] := by
    refine uncut (col.name, q.search ctx col) ?_
    rw [trails_eq]
    exact List.mem_map_of_mem (List.mem_of_find?_eq_some hi)
  refine ⟨col, ⟨col.name, (q.search ctx col).sources⟩, ?_, search_handedOn fresh hne hi whole⟩
  have pairs (cols : List ColumnRef) (g : ColumnRef → LineageEntry) :
      cols.zip (cols.map g) = cols.map fun col => (col, g col) := by
    simpa using List.zip_map' (f := id) (g := g) (l := cols)
  rw [lineage_eq, pairs, List.find?_map]
  exact congrArg (Option.map _) hi

/-- `WITH c AS (SELECT o.id FROM orders o), v AS (SELECT c.id FROM c) SELECT v.id FROM v` -/
theorem lineage_handedOn_plain :
    plainResult.Unused "v" ∧ (∀ x ∈ trails (plainResult.graph {}), x.2.cut = []) ∧
      ∀ entry ∈ ((plainResult.handedOn "v" ["id"]).graph {}).lineage,
        entry = ⟨"id", [⟨"orders", "id"⟩]⟩ := by
  have fresh : plainResult.Unused "v" :=
    ⟨by decide, by decide, by decide, by decide +kernel⟩
  have uncut : ∀ x ∈ trails (plainResult.graph {}), x.2.cut = [] := by decide +kernel
  have old : ((Builder.columnsOf .postgres plainResult.body).zip
      (plainResult.graph {}).lineage).find? (·.1.name == "id") =
        some (⟨"id", some "c", some "id", none⟩, ⟨"id", [⟨"orders", "id"⟩]⟩) := by decide +kernel
  obtain ⟨outputs, sources⟩ := @lineage_handedOn {} plainResult "v" ["id"] fresh (by decide) uncut
  refine ⟨fresh, uncut, fun ⟨output, found⟩ he => ?_⟩
  have name : output = "id" := by
    have := List.mem_map_of_mem (f := (·.output)) he
    rwa [outputs, List.mem_singleton] at this
  obtain ⟨col, origin, first, answered⟩ := sources _ he
  subst name
  cases first.symm.trans old
  rw [LineageEntry.mk.injEq]
  exact ⟨rfl, answered⟩

/-- Users by their id, which a named query shows under another name. -/
def passedOn (shown : String) : Query :=
  .withBindings
    [⟨"t", ⟨[⟨.of (.column [.bare "id"]), some shown⟩], [⟨"users", none, none⟩], none, [], [],
      none⟩⟩]
    ⟨[⟨.of (.column [.bare shown]), none⟩], [⟨"t", none, none⟩], none, [], [], none⟩ false

section Unqualified

variable {i : Nat} {item : SelectItem} {c node : String} {e : FromEntry} {o : Offer}

theorem answeredBy_plain (c : String) :
    ColumnRef.answeredBy ⟨c, none, some c, none⟩ = (·.column == c) := by
  funext s
  simp [ColumnRef.answeredBy]

/-- A column without a qualifier is answered by what flows into the one result that is read. -/
theorem search_plain (plain : item.Plain c) (alone : q.body.entries = [e])
    (latest : Offer.latest? (q.offers ctx) e.table = some o) :
    (q.search ctx (Builder.columnOf ctx.dialect item)).sources =
      (o.inflow.listed.find? (·.column == c)).toList := by
  have listed : q.listed ctx = o.inflow.listed := by
    rw [Query.listed, inflow, Selection.inflow_listed_of_alone ctx _ alone, FromEntry.inflow,
      latest]
  rw [plain.columnOf_eq, search_of_no_meaning rfl, listed, answeredBy_plain]

/-- A column without a qualifier, above the result of a named query, is the first column of its
name that the tables above the result list. So it comes from where the qualified column does exactly
when that one is the first, and it comes from nowhere exactly when there is none. The columns of the
result play no part in this. -/
theorem unqualified_through_result_iff (hi : q.body.items[i]? = some item) (plain : item.Plain c)
    (alone : q.body.entries = [e]) (bound : (q.named ctx).results.lookup e.table = some node) :
    ∃ entry explicit f, (q.graph ctx).lineage[i]? = some entry ∧
      ((q.withItem i (.qualified e.table c)).graph ctx).lineage[i]? = some explicit ∧
      (q.graph ctx).Yields node f ∧
      (∀ s, explicit.sources = [s] →
        (entry.sources = explicit.sources ↔ f.listed.find? (·.column == c) = some s)) ∧
      (entry.sources = [] ↔ ∀ s ∈ f.listed, s.column ≠ c) := by
  obtain ⟨o, latest, hy⟩ := q.graph_bound ctx bound
  have found := search_plain plain alone latest
  refine ⟨_, _, o.inflow, q.lineage_item ctx hi, lineage_item ctx _ (withItem_item hi _), hy,
    ?_, ?_⟩
  · intro s hs
    rw [hs, found]
    exact toList_eq_iff (b := some s)
  · rw [found, Option.toList_eq_nil_iff, List.find?_eq_none]
    simp

/-- `WITH t AS (SELECT id AS id FROM users) SELECT id FROM t` -/
theorem unqualified_through_result_same :
    ∃ entry explicit f, ((passedOn "id").graph users).lineage[0]? = some entry ∧
      (((passedOn "id").withItem 0 (.qualified "t" "id")).graph users).lineage[0]? =
        some explicit ∧
      ((passedOn "id").graph users).Yields "cte_2" f ∧
      f.listed.find? (·.column == "id") = some ⟨"users", "id"⟩ ∧
      entry.sources = explicit.sources := by
  obtain ⟨entry, explicit, f, he, hx, hy, agree, _⟩ :=
    @unqualified_through_result_iff users (passedOn "id") 0 _ "id" "cte_2" ⟨"t", none, none⟩ rfl
      ⟨rfl, _, rfl, rfl⟩ rfl rfl
  have bare : ((passedOn "id").graph users).lineage[0]? = some ⟨"id", [⟨"users", "id"⟩]⟩ := by
    decide +kernel
  have named : (((passedOn "id").withItem 0 (.qualified "t" "id")).graph users).lineage[0]? =
      some ⟨"id", [⟨"users", "id"⟩]⟩ := by decide +kernel
  refine ⟨entry, explicit, f, he, hx, hy, ?_⟩
  rw [bare] at he
  rw [named] at hx
  cases he
  cases hx
  exact ⟨(agree _ rfl).mp rfl, rfl⟩

/-- The result has a column `name` that comes from the ids, but the table lists no `name`. -/
theorem unqualified_through_result_differs :
    ¬ ∀ (ctx : BuildContext) (q : Query) (i : Nat) (item : SelectItem) (c : String) (e : FromEntry)
      (node : String), q.body.items[i]? = some item → item.Plain c → q.body.entries = [e] →
      (q.named ctx).results.lookup e.table = some node →
      ∃ entry explicit r, (q.graph ctx).lineage[i]? = some entry ∧
        ((q.withItem i (.qualified e.table c)).graph ctx).lineage[i]? = some explicit ∧
        (node, r) ∈ (q.graph ctx).results ∧
        (c ∈ r.columns.map (·.name) → ∀ s, explicit.sources = [s] → s ≠ ⟨e.table, c⟩ →
          (∃ x ∈ q.tableEntries, x.table = s.table) → entry.sources = explicit.sources) ∧
        (c ∉ r.columns.map (·.name) → "*" ∉ r.columns.map (·.name) → entry.sources = []) := by
  intro h
  obtain ⟨entry, explicit, r, he, hx, hr, exported, _⟩ :=
    h users (passedOn "name") 0 _ "name" ⟨"t", none, none⟩ "cte_2" rfl ⟨rfl, _, rfl, rfl⟩ rfl rfl
  have bare : ((passedOn "name").graph users).lineage[0]? = some ⟨"name", []⟩ := by
    decide +kernel
  have named : (((passedOn "name").withItem 0 (.qualified "t" "name")).graph users).lineage[0]? =
      some ⟨"name", [⟨"users", "id"⟩]⟩ := by decide +kernel
  have results : ∀ x ∈ ((passedOn "name").graph users).results,
      "name" ∈ x.2.columns.map (·.name) := by decide +kernel
  have table : ∃ x ∈ (passedOn "name").tableEntries, x.table = "users" := by decide +kernel
  rw [bare] at he
  rw [named] at hx
  cases he
  cases hx
  exact absurd (exported (results _ hr) _ rfl (by decide) table) (by decide)

/-- Where a name stands for one named query and for no table, and the named query shows a column
just as it is, the column has one lineage with the qualifier and without it. Only when it has none
does the qualified column stand for itself. -/
theorem qualified_of_plain_export (hi : q.body.items[i]? = some item) (plain : item.Plain c)
    (alone : q.body.entries = [e]) (given : e.table ≠ "" ∧ c ≠ "")
    (free : q.tableEntries.find? (·.knownAs e.table) = none) {x : Binding}
    (once : q.bindings.filter (·.name == e.table) = [x])
    (shown : (Builder.columnsOf ctx.dialect x.body).find? (·.name == c) =
      some ⟨c, none, some c, none⟩) :
    ∃ entry explicit, (q.graph ctx).lineage[i]? = some entry ∧
      ((q.withItem i (.qualified e.table c)).graph ctx).lineage[i]? = some explicit ∧
      explicit.sources = if entry.sources = [] then [⟨e.table, c⟩] else entry.sources := by
  obtain ⟨o, mem, columns, first, latest⟩ := q.offer_of_once ctx once
  have name : o.name = e.table := by simpa using List.find?_some first
  have meaning : ((q.withItem i (.qualified e.table c)).names ctx).meaning?
      (Builder.columnOf ctx.dialect (.qualified e.table c)) = some (.offer o c) := by
    rw [(SelectItem.qualified_refers given.1 c).columnOf_eq]
    simp only [Names.meaning?, Query.names, given?_eq_some.mpr ⟨rfl, given.1⟩,
      given?_eq_some.mpr ⟨rfl, given.2⟩, withItem_tableEntries, withItem_offers, free, first,
      Option.map_some]
  -- Inside the result the plain column is looked for as the one without a qualifier is above it.
  obtain ⟨result, _, _, _, hy⟩ := rel_some_right.mp (first ▸ q.graph_first ctx e.table)
  have inside : ((q.names ctx).resolve (q.graph ctx).nodes.length ⟨c, none, some c, none⟩
      o.inflow).sources = (o.inflow.listed.find? (·.column == c)).toList := by
    rw [← answeredBy_plain]
    exact resolve_listed rfl hy (q.offer_own ctx mem) (Nat.le_refl _)
  refine ⟨_, _, q.lineage_item ctx hi, lineage_item ctx _ (withItem_item hi _), ?_⟩
  rw [search, Names.resolve, meaning, withItem_names, withItem_length]
  simp only [inOffer, columns, shown, name, given?_eq_some.mpr ⟨rfl, given.2⟩,
    search_plain plain alone latest, orStand, inside]
  cases hs : o.inflow.listed.find? (·.column == c) with
  | none => simp
  | some s => simpa [hs] using inside

end Unqualified

end Query

end QueryFlow
