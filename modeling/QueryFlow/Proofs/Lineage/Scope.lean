import QueryFlow.Proofs.Lineage.Search

/-!
Qualifiers of the main query against the search for their columns. In the query a qualifier means
the one entry that shows this name; the search takes the first table of the whole graph that has the
name or is called so. The results say exactly when the two agree, and the examples show that they
do not always.
-/

namespace QueryFlow

/-- The name is the entry's table or its alias. -/
def FromEntry.knownAs (e : FromEntry) (name : String) : Bool :=
  e.table == name || e.alias == some name

theorem FromEntry.knownAs_visibleName (e : FromEntry) : e.knownAs e.visibleName = true := by
  unfold knownAs visibleName
  cases e.alias <;> simp

/-- The item is a column that is written with a qualifier. -/
def SelectItem.Refers (item : SelectItem) (qualifier column : String) : Prop :=
  Reference.ofForm? item.expr.form = some ⟨some qualifier, column⟩

/-- One entry of the SELECT shows the name, and no other one does. -/
def Selection.Sees (s : Selection) (name : String) (e : FromEntry) : Prop :=
  s.entries.filter (·.visibleName == name) = [e]

theorem Reference.ofPath_table {path : List Sql.Name} {qualifier column : String}
    (h : Reference.ofPath path = ⟨some qualifier, column⟩) : qualifier ≠ "" := by
  unfold Reference.ofPath at h
  split at h
  · cases h
  · cases h
  · rw [Reference.mk.injEq, nonEmpty?_eq_some] at h
    exact h.1.1 ▸ h.1.2

namespace SelectItem.Refers

variable {item : SelectItem} {qualifier column : String}

theorem qualifier_ne_empty (h : item.Refers qualifier column) : qualifier ≠ "" := by
  unfold SelectItem.Refers at h
  cases hf : item.expr.form with
  | column path =>
    rw [hf, Reference.ofForm?, Option.some.injEq] at h
    exact Reference.ofPath_table h
  | allOf path =>
    rw [hf, Reference.ofForm?, Option.some.injEq, Reference.allOf, Reference.mk.injEq] at h
    obtain ⟨t, _, ht⟩ := Option.bind_eq_some_iff.mp h.1
    obtain ⟨rfl, hne⟩ := nonEmpty?_eq_some.mp ht
    exact hne
  | _ => simp [hf, Reference.ofForm?] at h

theorem columnOf_eq (d : Sql.Dialect) (h : item.Refers qualifier column) :
    Builder.columnOf d item = ⟨item.alias.getD column, some qualifier, some column, none⟩ := by
  unfold SelectItem.Refers at h
  unfold Builder.columnOf
  cases hf : item.expr.form with
  | column path =>
    rw [hf, Reference.ofForm?, Option.some.injEq] at h
    simp only [h]
  | allOf path =>
    rw [hf, Reference.ofForm?, Option.some.injEq] at h
    simp only [h]
  | _ => simp [hf, Reference.ofForm?] at h

theorem given_table (d : Sql.Dialect) (h : item.Refers qualifier column) :
    Lineage.given? (Builder.columnOf d item).sourceTable = some qualifier := by
  rw [h.columnOf_eq]
  exact nonEmpty?_eq_some.mpr ⟨rfl, h.qualifier_ne_empty⟩

theorem given_column (d : Sql.Dialect) (h : item.Refers qualifier column) (hc : column ≠ "") :
    Lineage.given? (Builder.columnOf d item).sourceColumn = some column := by
  rw [h.columnOf_eq]
  exact nonEmpty?_eq_some.mpr ⟨rfl, hc⟩

theorem given_column_empty (d : Sql.Dialect) (h : item.Refers qualifier "") :
    Lineage.given? (Builder.columnOf d item).sourceColumn = none := by
  rw [h.columnOf_eq]
  rfl

end SelectItem.Refers

def Selection.single (qualifier column table : String) (shown : Option String) : Selection :=
  ⟨[⟨.of (.column [.bare qualifier, .bare column]), none⟩], [⟨table, shown, none⟩], none, [], [],
    none⟩

namespace Query

/-- The alias of the main query is one of a named query too. -/
def reusedAlias : Query :=
  .withBindings [⟨"c", .single "x" "a" "foo" (some "x")⟩] (.single "x" "b" "bar" (some "x")) false

/-- The result of a named query goes by an alias. -/
def aliasedResult : Query :=
  .withBindings [⟨"c", .single "o" "id" "orders" (some "o")⟩] (.single "x" "id" "c" (some "x"))
    false

/-- The result of a named query goes by its own name. -/
def plainResult : Query :=
  .withBindings [⟨"c", .single "o" "id" "orders" (some "o")⟩] (.single "c" "id" "c" none) false

variable (ctx : BuildContext) (q : Query)

theorem graph_nodup : (q.graph ctx).ids.Nodup := by
  rw [graph, takeQuery_run]
  exact (Builder.run_sound ctx q.calls).nodup_ids

theorem graph_forward : (q.graph ctx).Forward := by
  rw [graph, takeQuery_run]
  exact (Builder.run_sound ctx q.calls).forward_graph

/-- The lineage of an item of the main query is what the search for its column finds. -/
theorem lineage_at {i : Nat} {item : SelectItem} (hi : q.body.items[i]? = some item) :
    (q.graph ctx).lineage[i]? = some ⟨(Builder.columnOf ctx.dialect item).name,
      (q.graph ctx).sourcesOf (Builder.columnOf ctx.dialect item)⟩ := by
  obtain ⟨id, output, ho, hc⟩ := q.graph_outputs ctx
  rw [Graph.lineage_eq ho, hc, Builder.columnsOf, List.map_map, List.getElem?_map, hi]
  rfl

/-- The first table of a name in the graph is the first entry of that name in the query. -/
theorem first_table (name : String) :
    ((q.graph ctx).tables.find? (·.knownAs name)).map TableSource.mention =
      (q.tableEntries.find? (·.knownAs name)).map FromEntry.mention := by
  let known : String × Option String → Bool := fun m => m.1 == name || m.2 == some name
  calc ((q.graph ctx).tables.find? (·.knownAs name)).map TableSource.mention
      = ((q.graph ctx).tables.map TableSource.mention).find? known := by
        rw [List.find?_map]; rfl
    _ = (q.tableEntries.map FromEntry.mention).find? known := by rw [graph_tables]
    _ = (q.tableEntries.find? (·.knownAs name)).map FromEntry.mention := by
        rw [List.find?_map]; rfl

/-- An entry of the main query that is not bound is read from a table. -/
theorem exists_table {e : FromEntry} (he : e ∈ q.body.entries)
    (free : (q.named ctx).results.lookup e.table = none) :
    ∃ x ∈ q.tableEntries, x.mention = e.mention := by
  have unbound : e ∈ (q.named ctx).unbound q.body.entries := by
    simp [Builder.unbound, he, free]
  have tables := Builder.take_tables ctx (q.named ctx) (.main q.body)
  rw [Builder.take, ← takeQuery_eq, ← graph, graph_tables] at tables
  exact List.mem_map.mp (tables ▸ List.mem_append_right _ (List.mem_map_of_mem unbound))

section Item

variable {ctx q} {i : Nat} {item : SelectItem} {qualifier column : String} {e : FromEntry}

theorem knownAs_of_sees (sees : q.body.Sees qualifier e) :
    e ∈ q.body.entries ∧ e.knownAs qualifier = true := by
  have mem : e ∈ q.body.entries.filter (·.visibleName == qualifier) := by
    rw [sees]
    exact List.mem_singleton_self e
  obtain ⟨he, visible⟩ := List.mem_filter.mp mem
  rw [beq_iff_eq] at visible
  exact ⟨he, visible ▸ e.knownAs_visibleName⟩

/-- A qualifier that means a table goes with some entry that is read from a table. -/
theorem exists_first (sees : q.body.Sees qualifier e)
    (free : (q.named ctx).results.lookup e.table = none) :
    ∃ first, q.tableEntries.find? (·.knownAs qualifier) = some first := by
  obtain ⟨he, known⟩ := knownAs_of_sees sees
  obtain ⟨x, hx, same⟩ := q.exists_table ctx he free
  rw [FromEntry.mention, FromEntry.mention, Prod.mk.injEq] at same
  have : x.knownAs qualifier = true := by
    rw [FromEntry.knownAs, same.1, same.2]
    exact known
  exact Option.isSome_iff_exists.mp (List.find?_isSome.mpr ⟨x, hx, this⟩)

/-- The first entry that goes by the qualifier answers. -/
theorem sourcesOf_first (refers : item.Refers qualifier column) (hc : column ≠ "")
    {first : FromEntry} (hf : q.tableEntries.find? (·.knownAs qualifier) = some first) :
    (q.graph ctx).sourcesOf (Builder.columnOf ctx.dialect item) = [⟨first.table, column⟩] := by
  obtain ⟨id, output, ho, _⟩ := q.graph_outputs ctx
  have table := q.first_table ctx qualifier
  rw [hf, Option.map_some, Option.map_eq_some_iff] at table
  obtain ⟨t, ht, same⟩ := table
  rw [TableSource.mention, FromEntry.mention, Prod.mk.injEq] at same
  rw [← same.1]
  exact Graph.sourcesOf_table (q.graph_nodup ctx) ho (refers.given_table _)
    (refers.given_column _ hc) ht

/-- A column whose qualifier means a table comes from that table exactly when the first entry of
the query that goes by the qualifier reads the same table. A column with an empty name is searched
along the edges instead. -/
theorem table_column_in_scope_iff (hi : q.body.items[i]? = some item)
    (refers : item.Refers qualifier column) (sees : q.body.Sees qualifier e)
    (free : (q.named ctx).results.lookup e.table = none) :
    ∃ entry, (q.graph ctx).lineage[i]? = some entry ∧
      (entry.sources = [⟨e.table, column⟩] ↔
        if column = "" then
          (q.graph ctx).climbed (Builder.columnOf ctx.dialect item) = [⟨e.table, column⟩]
        else ∃ first, q.tableEntries.find? (·.knownAs qualifier) = some first ∧
          first.table = e.table) := by
  refine ⟨_, q.lineage_at ctx hi, ?_⟩
  split
  case isTrue hc =>
    subst hc
    rw [Graph.sourcesOf_unnamed (refers.given_column_empty ctx.dialect)]
  case isFalse hc =>
    obtain ⟨first, hf⟩ := exists_first sees free
    rw [sourcesOf_first refers hc hf]
    simp [hf]

/-- `SELECT a.x FROM t AS a` -/
theorem table_column_in_scope_alias :
    ∃ entry, ((Query.select (.single "a" "x" "t" (some "a"))).graph {}).lineage[0]? = some entry ∧
      entry.sources = [⟨"t", "x"⟩] := by
  obtain ⟨entry, hl, answered⟩ := @table_column_in_scope_iff {}
    (.select (.single "a" "x" "t" (some "a"))) 0 _ "a" "x" ⟨"t", some "a", none⟩ rfl rfl rfl rfl
  exact ⟨entry, hl, answered.mpr ⟨_, rfl, rfl⟩⟩

/-- The only entry that shows `x` reads `bar`, but `x` is first an alias of `foo`. -/
theorem table_column_out_of_scope :
    ¬ ∀ (ctx : BuildContext) (q : Query) (i : Nat) (item : SelectItem) (qualifier column : String)
      (e : FromEntry), q.body.items[i]? = some item → item.Refers qualifier column →
      q.body.Sees qualifier e → (q.named ctx).results.lookup e.table = none →
      ∃ entry, (q.graph ctx).lineage[i]? = some entry ∧ entry.sources = [⟨e.table, column⟩] := by
  intro h
  obtain ⟨entry, hl, hs⟩ := h {} reusedAlias 0 _ "x" "b" ⟨"bar", some "x", none⟩ rfl rfl rfl rfl
  have found : (reusedAlias.graph {}).lineage = [⟨"b", [⟨"foo", "b"⟩]⟩] := by decide +kernel
  rw [found] at hl
  cases hl
  exact absurd hs (by decide)

/-- A column whose qualifier means the result of a named query is what the result says about it,
exactly when the search finds just that: in the first entry that is read from a table and goes by
the qualifier, or else in the first result of that name, or else along the edges. -/
theorem named_column_in_scope_iff (hi : q.body.items[i]? = some item)
    (refers : item.Refers qualifier column) (sees : q.body.Sees qualifier e) {node : String}
    (bound : (q.named ctx).results.lookup e.table = some node) :
    ∃ entry r, (q.graph ctx).lineage[i]? = some entry ∧
      (node, r) ∈ (q.graph ctx).results ∧ r.name = e.table ∧
      (entry.sources = (q.graph ctx).through node r column ↔
        if column = "" then
          (q.graph ctx).climbed (Builder.columnOf ctx.dialect item) =
            (q.graph ctx).through node r column
        else match q.tableEntries.find? (·.knownAs qualifier) with
          | some first => [⟨first.table, column⟩] = (q.graph ctx).through node r column
          | none => match (q.graph ctx).results.find? (·.2.name == qualifier) with
            | some (other, first) =>
              (q.graph ctx).through other first column = (q.graph ctx).through node r column
            | none => e.alias = some qualifier ∧
              (q.graph ctx).climbed (Builder.columnOf ctx.dialect item) =
                (q.graph ctx).through node r column) := by
  obtain ⟨n, hn, rfl, r, hr, hname⟩ := q.graph_hasResult ctx bound
  have mem : (n.id, r) ∈ (q.graph ctx).results :=
    List.mem_filterMap.mpr ⟨n, hn, by simp [Node.result?, hr]⟩
  refine ⟨_, r, q.lineage_at ctx hi, mem, hname, ?_⟩
  split
  case isTrue hc =>
    subst hc
    rw [Graph.sourcesOf_unnamed (refers.given_column_empty ctx.dialect)]
  case isFalse hc =>
    obtain ⟨id, output, ho, _⟩ := q.graph_outputs ctx
    cases hf : q.tableEntries.find? (·.knownAs qualifier) with
    | some first => rw [sourcesOf_first refers hc hf]
    | none =>
      have table := q.first_table ctx qualifier
      rw [hf, Option.map_none, Option.map_eq_none_iff] at table
      cases hfirst : (q.graph ctx).results.find? (·.2.name == qualifier) with
      | some found =>
        simp only [Graph.sourcesOf_result (q.graph_nodup ctx) ho (refers.given_table _)
          (refers.given_column _ hc) table hfirst]
      | none =>
        -- The result has the entry's own name, so the qualifier can only be the alias.
        have other : e.table ≠ qualifier := by
          have := List.find?_eq_none.mp hfirst _ mem
          simpa [hname] using this
        have shown := (knownAs_of_sees sees).2
        simp only [FromEntry.knownAs, Bool.or_eq_true, beq_iff_eq, other, false_or] at shown
        simp only [shown, true_and, Graph.sourcesOf_unknown (q.graph_nodup ctx) ho
          (refers.given_table _) (refers.given_column _ hc) table hfirst]

/-- `WITH c AS (SELECT o.id FROM orders o) SELECT c.id FROM c` -/
theorem named_column_in_scope_plain :
    ∃ entry r, (plainResult.graph {}).lineage[0]? = some entry ∧
      ("cte_2", r) ∈ (plainResult.graph {}).results ∧ r.name = "c" ∧
      entry.sources = (plainResult.graph {}).through "cte_2" r "id" := by
  obtain ⟨entry, r, hl, hr, hname, answered⟩ := @named_column_in_scope_iff {} plainResult 0 _
    "c" "id" ⟨"c", none, none⟩ rfl rfl rfl "cte_2" rfl
  refine ⟨entry, r, hl, hr, hname, answered.mpr ?_⟩
  have results : (plainResult.graph {}).results =
      [("cte_2", ⟨"c", [⟨"id", some "o", some "id", none⟩], false, false, 0⟩)] := by
    decide +kernel
  rw [results, List.mem_singleton, Prod.mk.injEq] at hr
  rw [hr.2]
  rfl

/-- The alias `x` of the result is known to nothing in the graph. -/
theorem named_column_out_of_scope :
    ¬ ∀ (ctx : BuildContext) (q : Query) (i : Nat) (item : SelectItem) (qualifier column : String)
      (e : FromEntry) (node : String), q.body.items[i]? = some item →
      item.Refers qualifier column → q.body.Sees qualifier e →
      (q.named ctx).results.lookup e.table = some node →
      ∃ entry r, (q.graph ctx).lineage[i]? = some entry ∧ (node, r) ∈ (q.graph ctx).results ∧
        r.name = e.table ∧ entry.sources = (q.graph ctx).through node r column := by
  intro h
  obtain ⟨entry, r, hl, hr, _, hs⟩ :=
    h {} aliasedResult 0 _ "x" "id" ⟨"c", some "x", none⟩ "cte_2" rfl rfl rfl rfl
  have results : (aliasedResult.graph {}).results =
      [("cte_2", ⟨"c", [⟨"id", some "o", some "id", none⟩], false, false, 0⟩)] := by
    decide +kernel
  have found : (aliasedResult.graph {}).lineage = [⟨"id", []⟩] := by decide +kernel
  rw [results, List.mem_singleton, Prod.mk.injEq] at hr
  rw [found] at hl
  cases hl
  rw [hr.2] at hs
  have origin : (aliasedResult.graph {}).through "cte_2"
      ⟨"c", [⟨"id", some "o", some "id", none⟩], false, false, 0⟩ "id" = [⟨"orders", "id"⟩] := by
    decide +kernel
  rw [origin] at hs
  cases hs

end Item

end Query

end QueryFlow
