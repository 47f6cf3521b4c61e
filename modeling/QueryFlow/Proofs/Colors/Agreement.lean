import QueryFlow.Proofs.Colors.Draws

/-!
What the colors in the graph of a query tell. Every named query has a color of its own. A table has
the color of what its name stands for where it is read, and that can be another table or a named
query when a name was given again. The main statements say exactly when one table has one color,
when colors tell tables and named queries apart, and when the color map of the output agrees with
the nodes. That each of them can fail is shown by one query.
-/

namespace QueryFlow

open Builder

theorem lookup_map_snd {α β : Type} (f : α → β) (xs : List (String × α)) (name : String) :
    (xs.map fun x => (x.1, f x.2)).lookup name = (xs.lookup name).map f := by
  induction xs with
  | nil => rfl
  | cons x rest ih =>
    rw [List.map_cons, List.lookup_cons, List.lookup_cons, ih]
    cases name == x.1 <;> rfl

namespace Builder

variable {ctx : BuildContext} {b c : Builder} {drawn : List Owner}

theorem Grows.subset {nodes : List Node} {wires : List Wire} (h : Grows b c nodes wires) :
    b.nodes ⊆ c.nodes := by
  rw [h.nodes]
  exact List.subset_append_left b.nodes nodes

theorem takeEntry_subset (ctx : BuildContext) (parent last : Option String) (b : Builder)
    (e : FromEntry) :
    (b.readEntry ctx parent e).2.nodes ⊆ (takeEntry ctx parent (last, b) e).2.nodes := by
  rcases takeEntry_cases ctx parent last b e with ⟨m, left, _, _, taken⟩ | ⟨_, taken⟩
  · rw [taken]
    exact (addJoin_grows ctx _ parent m left _).subset
  · rw [taken]
    exact List.Subset.refl _

/-- A main query hands the colors at its end on to its output. -/
theorem takeMain_colored (ctx : BuildContext) (b : Builder) (s : Selection) :
    ∃ output : Output,
      output.colorMap = some ((b.takeInner ctx none s).2.colors.map fun x => (x.1, (x.2 : Int))) ∧
      b.takeMain ctx s =
        let inner := b.takeInner ctx none s
        let result := inner.2.addNode none (.output output)
        result.2.addEdgeFrom inner.1 result.1 (some (output.columns.map (·.name))) :=
  ⟨⟨_, _, _, some _⟩, rfl, rfl⟩

/-- These are the colors behind its entries, and nodes that are there then are there in the end. -/
theorem takeMain_output (ctx : BuildContext) (b : Builder) (s : Selection) :
    let inner :=
      s.entries.foldl (takeEntry ctx none) (none, { b with usage := Usage.ofSelection s })
    inner.2.nodes ⊆ (b.takeMain ctx s).nodes ∧
      ∃ id output, (id, output) ∈ (b.takeMain ctx s).graph.outputs ∧
        output.colorMap = some (inner.2.colors.map fun x => (x.1, (x.2 : Int))) := by
  intro inner
  obtain ⟨first, _, _, _, narrowed⟩ := filtered_grows ctx none s inner
  obtain ⟨second, _, _, _, grouped⟩ := aggregated_grows ctx none s (filtered ctx none s inner)
  have kept : inner.2.nodes ⊆ (b.takeInner ctx none s).2.nodes := by
    rw [takeInner_eq]
    exact List.Subset.trans narrowed.subset grouped.subset
  have colors : (b.takeInner ctx none s).2.colors = inner.2.colors :=
    (takeInner_sameColors ctx b none s).colors
  obtain ⟨output, map, taken⟩ := takeMain_colored ctx b s
  rw [taken]
  refine ⟨?_, nodeId .output (b.takeInner ctx none s).2.counter, output, ?_, colors ▸ map⟩
  · rw [addEdgeFrom_nodes, addNode_nodes]
    exact List.Subset.trans kept (List.subset_append_left _ _)
  · simp [Graph.outputs, graph, Node.output?, NodeData.kind]

theorem Bears.later {nodes others : List Node} {id : String} {o : Owner}
    (h : Bears drawn nodes id o) (more : List Owner) (sub : nodes ⊆ others) :
    Bears (drawn ++ more) others id o := by
  obtain ⟨mem, n, hn, hid, shown⟩ := h
  exact ⟨List.mem_append_left _ mem, n, sub hn, hid, by rw [colorIn_append more mem, shown]⟩

/-- The color of a name is that of an owner just when the name stands for it. -/
theorem Colored.lookup_iff {means : Standing} (h : Colored means drawn b) {name : String}
    (mem : means name ∈ drawn) (o : Owner) :
    (b.colors.map fun x => (x.1, (x.2 : Int))).lookup name = some (colorIn drawn o) ↔
      means name = o := by
  obtain ⟨color, found⟩ := h.exists_color mem
  obtain ⟨_, rfl⟩ := h.known name color found
  rw [lookup_map_snd, found, Option.map_some, Option.some_inj]
  exact colorIn_inj mem

namespace Shows

variable {framed names : List String} {reads : List Reading} {g : Graph}

/-- Each table comes from a reading, and has the color of the reading's owner. -/
theorem reading_of_table (h : Shows framed names drawn reads g) {t : TableSource}
    (ht : t ∈ g.tables) :
    ∃ r ∈ reads, r.entry.table = t.table ∧ t.colorIndex = colorIn drawn r.owner := by
  have mem : t.shown ∈ reads.map (Reading.shown drawn) := h.tables ▸ List.mem_map_of_mem ht
  obtain ⟨r, hr, same⟩ := List.mem_map.mp mem
  obtain ⟨mention, color⟩ := Prod.mk.inj same
  exact ⟨r, hr, (Prod.mk.inj mention).1, color.symm⟩

theorem table_of_reading (h : Shows framed names drawn reads g) {r : Reading} (hr : r ∈ reads) :
    ∃ t ∈ g.tables, t.table = r.entry.table ∧ t.colorIndex = colorIn drawn r.owner := by
  have mem : r.shown drawn ∈ g.tables.map TableSource.shown := h.tables ▸ List.mem_map_of_mem hr
  obtain ⟨t, ht, same⟩ := List.mem_map.mp mem
  obtain ⟨mention, color⟩ := Prod.mk.inj same
  exact ⟨t, ht, (Prod.mk.inj mention).1, color⟩

theorem result_of_place (h : Shows framed names drawn reads g) {k : Nat} (hk : k < names.length) :
    ∃ x ∈ g.results, x.2.colorIndex = colorIn drawn (.named k) := by
  have there : k < g.results.length := h.length_results ▸ hk
  exact ⟨_, List.getElem_mem there, (h.result_at (List.getElem?_eq_getElem there)).2⟩

theorem place_of_result (h : Shows framed names drawn reads g) {x : String × NamedResult}
    (hx : x ∈ g.results) : ∃ k, .named k ∈ drawn ∧ x.2.colorIndex = colorIn drawn (.named k) := by
  obtain ⟨k, found⟩ := List.getElem?_of_mem hx
  exact ⟨k, h.result_at found⟩

/-- No two named queries share a color. -/
theorem results_nodup (h : Shows framed names drawn reads g) :
    (g.results.map (·.2.colorIndex)).Nodup := by
  rw [List.Nodup, List.pairwise_map, List.pairwise_iff_getElem]
  intro i j hi hj less same
  obtain ⟨own, shown⟩ := h.result_at (List.getElem?_eq_getElem hi)
  obtain ⟨_, shown'⟩ := h.result_at (List.getElem?_eq_getElem hj)
  rw [shown, shown', colorIn_inj own] at same
  exact Nat.ne_of_lt less (Owner.named.inj same)

end Shows

end Builder

/-- `SELECT qualifier.column` from these entries. -/
def Selection.listing (qualifier column : String) (entries : List FromEntry) : Selection :=
  ⟨[⟨.of (.column [.bare qualifier, .bare column]), none⟩], entries, none, [], [], none⟩

namespace Query

/-- The alias in a named query is the name of the query. -/
def hiddenName : Query :=
  .withBindings [⟨"c", .listing "c" "x" [⟨"foo", some "c", none⟩]⟩]
    (.listing "c" "x" [⟨"c", none, none⟩]) false

/-- A named query goes by an alias. -/
def shownByAlias : Query :=
  .withBindings [⟨"c", .listing "o" "x" [⟨"foo", some "o", none⟩]⟩]
    (.listing "t" "x" [⟨"c", some "t", none⟩]) false

/-- The name of a table is given to another table, and then it is read again. -/
def takenName : Query :=
  .select (.listing "x" "a" [⟨"foo", some "x", none⟩, ⟨"bar", some "foo", none⟩,
    ⟨"foo", some "y", none⟩])

/-- The alias of one table is the name of the next. -/
def sharedName : Query :=
  .select (.listing "x" "a" [⟨"foo", some "x", none⟩, ⟨"x", some "y", none⟩])

variable (ctx : BuildContext) (q : Query)

theorem graph_shows : ∃ drawn, Shows (q.bindings.map (·.name)) (q.bindings.map (·.name)) drawn
      q.readings (q.graph ctx) ∧
    (∀ k, .named k ∈ drawn → k < (q.bindings.map (·.name)).length) ∧
    ∀ t, .table t ∈ drawn → ∃ r ∈ q.readings, r.entry.table = t ∧ r.owner = .table t := by
  obtain ⟨drawn, painted⟩ := run_painted ctx q.calls
  have names : q.calls.flatMap (·.name?.toList) = q.bindings.map (·.name) := by
    rw [calls, ← namedCalls, List.flatMap_append, namedCalls_names]
    exact List.append_nil _
  rw [names] at painted
  rw [graph, takeQuery_run]
  exact ⟨drawn, painted.shows, painted.fresh, painted.first⟩

/-- All nodes of a table have one color exactly when its name stands for one thing wherever the
table is read. So it is when no named query has the name and no entry gives it to another table. -/
theorem same_table_same_color_iff (table : String) :
    ((∀ t ∈ (q.graph ctx).tables, ∀ t' ∈ (q.graph ctx).tables,
        t.table = table → t'.table = table → t.colorIndex = t'.colorIndex) ↔
      ∀ r ∈ q.readings, ∀ r' ∈ q.readings,
        r.entry.table = table → r'.entry.table = table → r.owner = r'.owner) ∧
    ((∀ x ∈ q.bindings, x.name ≠ table) →
      (∀ call ∈ q.calls, ∀ e ∈ call.body.entries, e.alias = some table → e.table = table) →
      ∀ r ∈ q.readings, r.entry.table = table → r.owner = .table table) := by
  obtain ⟨drawn, shows, _⟩ := q.graph_shows ctx
  constructor
  · constructor
    · intro same r hr r' hr' own own'
      obtain ⟨t, ht, name, color⟩ := shows.table_of_reading hr
      obtain ⟨t', ht', name', color'⟩ := shows.table_of_reading hr'
      have equal := same t ht t' ht' (name.trans own) (name'.trans own')
      rw [color, color'] at equal
      exact (colorIn_inj (shows.owned r hr)).mp equal
    · intro same t ht t' ht' own own'
      obtain ⟨r, hr, name, color⟩ := shows.reading_of_table ht
      obtain ⟨r', hr', name', color'⟩ := shows.reading_of_table ht'
      rw [color, color', same r hr r' hr' (name.trans own) (name'.trans own')]
  · intro free own r hr name
    refine Standing.owner_of_mem_readings (fun call hc => ?_) own hr name
    rcases List.mem_append.mp hc with named | main
    · obtain ⟨x, hx, rfl⟩ := List.mem_map.mp named
      exact fun same => free x hx (Option.some.inj same)
    · obtain rfl := List.mem_singleton.mp main
      simp [Call.name?]

/-- `SELECT x.a FROM foo x, bar foo, foo y` -/
theorem same_table_other_color :
    ¬ ∀ (ctx : BuildContext) (q : Query), ∀ t ∈ (q.graph ctx).tables,
      ∀ t' ∈ (q.graph ctx).tables, t.table = t'.table → t.colorIndex = t'.colorIndex := by
  intro h
  have tables : (takenName.graph {}).tables = [⟨"foo", some "x", [], 0⟩, ⟨"bar", some "foo", [], 1⟩,
      ⟨"foo", some "y", [], 1⟩] := by decide +kernel
  have same := h {} takenName ⟨"foo", some "x", [], 0⟩ (by simp [tables])
    ⟨"foo", some "y", [], 1⟩ (by simp [tables]) rfl
  exact absurd same (by decide)

/-- Named queries have colors of their own, the frame of each that of its result. Besides that,
colors tell tables and named queries apart exactly when the name of each table that is read stands
for the table itself. -/
theorem own_colors_iff :
    (q.graph ctx).results.map (·.2.name) = q.bindings.map (·.name) ∧
    (q.graph ctx).frames.map NamedGroup.shown = (q.graph ctx).results.map (·.2.shown) ∧
    ((q.graph ctx).results.map (·.2.colorIndex)).Nodup ∧
    (((∀ t ∈ (q.graph ctx).tables, ∀ t' ∈ (q.graph ctx).tables,
          t.table ≠ t'.table → t.colorIndex ≠ t'.colorIndex) ∧
        ∀ t ∈ (q.graph ctx).tables, ∀ x ∈ (q.graph ctx).results, t.colorIndex ≠ x.2.colorIndex) ↔
      ∀ r ∈ q.readings, r.owner = .table r.entry.table) := by
  obtain ⟨drawn, shows, fresh, first⟩ := q.graph_shows ctx
  have names : (q.graph ctx).results.map (·.2.name) = q.bindings.map (·.name) := by
    have shown := congrArg (List.map Prod.fst) shows.results
    simpa [namedColors, NamedResult.shown, Function.comp_def] using shown
  refine ⟨names, shows.frames.trans shows.results.symm, shows.results_nodup, ?_⟩
  constructor
  · rintro ⟨apart, free⟩ r hr
    obtain ⟨t, ht, name, color⟩ := shows.table_of_reading hr
    cases ho : r.owner with
    | table other =>
      -- The color of the other table was drawn where that table is read under its own name.
      by_contra wrong
      obtain ⟨r', hr', read, own⟩ := first other (ho ▸ shows.owned r hr)
      obtain ⟨t', ht', name', color'⟩ := shows.table_of_reading hr'
      have differ : t.table ≠ t'.table := fun same =>
        wrong (congrArg Owner.table (by rw [← name, same, name', read]))
      exact apart t ht t' ht' differ (by rw [color, color', ho, own])
    | named k =>
      obtain ⟨x, hx, shown⟩ := shows.result_of_place (fresh k (ho ▸ shows.owned r hr))
      exact absurd (by rw [color, ho, shown]) (free t ht x hx)
  · intro own
    constructor
    · intro t ht t' ht' differ same
      apply differ
      obtain ⟨r, hr, name, color⟩ := shows.reading_of_table ht
      obtain ⟨r', hr', name', color'⟩ := shows.reading_of_table ht'
      rw [color, color', colorIn_inj (shows.owned r hr), own r hr, own r' hr'] at same
      rw [← name, ← name', Owner.table.inj same]
    · intro t ht x hx same
      obtain ⟨r, hr, _, color⟩ := shows.reading_of_table ht
      obtain ⟨k, _, shown⟩ := shows.place_of_result hx
      rw [color, shown, colorIn_inj (shows.owned r hr), own r hr] at same
      cases same

/-- `SELECT x.a FROM foo x, x y` -/
theorem other_table_same_color :
    ¬ ∀ (ctx : BuildContext) (q : Query),
      (∀ t ∈ (q.graph ctx).tables, ∀ t' ∈ (q.graph ctx).tables,
        t.table ≠ t'.table → t.colorIndex ≠ t'.colorIndex) ∧
      ((q.graph ctx).results.map (·.2.colorIndex)).Nodup ∧
      ∀ t ∈ (q.graph ctx).tables, ∀ x ∈ (q.graph ctx).results, t.colorIndex ≠ x.2.colorIndex := by
  intro h
  have tables : (sharedName.graph {}).tables =
      [⟨"foo", some "x", [], 0⟩, ⟨"x", some "y", [], 0⟩] := by decide +kernel
  have apart := (h {} sharedName).1 ⟨"foo", some "x", [], 0⟩ (by simp [tables])
    ⟨"x", some "y", [], 0⟩ (by simp [tables]) (by decide)
  exact apart rfl

/-- The builder inside of the main query, behind some of its entries. -/
def behind (front : List FromEntry) : Option String × Builder :=
  front.foldl (takeEntry ctx none) (none, { q.named ctx with usage := Usage.ofSelection q.body })

/-- The id of the node that an entry of the main query reads, behind some entries. -/
def nodeOf (front : List FromEntry) (e : FromEntry) : String :=
  ((q.behind ctx front).2.readEntry ctx none e).1

variable {q}

theorem behind_painted (front : List FromEntry) :
    ∃ drawn reads, Painted (q.bindings.map (·.name)) (q.bindings.map (·.name)) (q.standing front)
      drawn reads (q.behind ctx front).2 := by
  obtain ⟨drawn, named⟩ := run_painted ctx q.namedCalls
  rw [q.namedCalls_names] at named
  have start := named.sameColors (c := { q.named ctx with usage := Usage.ofSelection q.body })
    ⟨rfl, rfl, rfl, rfl, rfl, rfl⟩
  obtain ⟨more, all⟩ := Painted.takeEntries ctx none front
    (none, { q.named ctx with usage := Usage.ofSelection q.body }) start
  exact ⟨_, _, all⟩

/-- A visible name that no other entry shows keeps what its table stood for. -/
theorem standing_visibleName (distinct : (q.body.entries.map FromEntry.visibleName).Nodup)
    {front back : List FromEntry} {e : FromEntry} (split : q.body.entries = front ++ e :: back) :
    q.standing q.body.entries e.visibleName = q.standing front e.table := by
  rw [split, List.map_append, List.map_cons, List.nodup_append, List.nodup_cons] at distinct
  have others : ∀ other ∈ back, other.alias = some e.visibleName → other.table = e.visibleName := by
    intro other mem shown
    have same : other.visibleName = e.visibleName := by rw [FromEntry.visibleName, shown]; rfl
    exact absurd (same ▸ List.mem_map_of_mem mem) distinct.2.1.1
  rw [split, standing, List.foldl_append, List.foldl_cons, Standing.foldl_behind_of_own others,
    Standing.behind_visibleName]
  rfl

theorem behind_split {front back : List FromEntry} {e : FromEntry}
    (split : q.body.entries = front ++ e :: back) :
    q.behind ctx q.body.entries =
      back.foldl (takeEntry ctx none) (takeEntry ctx none (q.behind ctx front) e) := by
  rw [split, behind, List.foldl_append, List.foldl_cons]
  rfl

theorem standing_split {front back : List FromEntry} {e : FromEntry}
    (split : q.body.entries = front ++ e :: back) :
    q.standing q.body.entries = back.foldl Standing.behind ((q.standing front).behind e) := by
  rw [split, standing, List.foldl_append, List.foldl_cons]
  rfl

/-- Behind the main query's entries, the node of each is there with the color of its source, and
each name has the color of what it stands for. -/
theorem entry_bears {front back : List FromEntry} {e : FromEntry}
    (split : q.body.entries = front ++ e :: back) :
    ∃ drawn, Colored (q.standing q.body.entries) drawn (q.behind ctx q.body.entries).2 ∧
      q.standing front e.table ∈ drawn ∧
      Bears drawn (q.behind ctx q.body.entries).2.nodes (q.nodeOf ctx front e)
        ((q.standing front).source (q.bindings.map (·.name)) e) := by
  obtain ⟨drawn, reads, painted⟩ := behind_painted (q := q) ctx front
  obtain ⟨more, mem, read, bears⟩ := painted.readEntry ctx none e
  have taken := read.sameColors
    (takeEntry_sameColors ctx none (q.behind ctx front).1 (q.behind ctx front).2 e)
  obtain ⟨others, all⟩ := Painted.takeEntries ctx none back _ taken
  obtain ⟨_, _, _, _, grown⟩ :=
    takeEntries_grows ctx none back (takeEntry ctx none (q.behind ctx front) e)
  have sub := List.Subset.trans
    (takeEntry_subset ctx none (q.behind ctx front).1 (q.behind ctx front).2 e) grown.subset
  rw [behind_split ctx split, standing_split split]
  exact ⟨_, all.colored, List.mem_append_left _ mem, bears.later others sub⟩

/-- Where the entries of the main query show different names, the color map of the output gives each
of these names the color of the node that its entry reads, exactly when the name of the entry still
stands for the named query that it means, if it means one. -/
theorem color_map_agrees_iff (distinct : (q.body.entries.map FromEntry.visibleName).Nodup) :
    ∃ id output colors, (q.graph ctx).outputs = [(id, output)] ∧ output.colorMap = some colors ∧
      ∀ front e back, q.body.entries = front ++ e :: back →
        ∃ n color, n ∈ (q.graph ctx).nodes ∧ n.id = q.nodeOf ctx front e ∧
          n.data.colorIndex? = some color ∧
          (colors.lookup e.visibleName = some color ↔
            ∀ k, q.place? e.table = some k → q.standing front e.table = .named k) := by
  obtain ⟨id, output, ho, _⟩ := q.graph_outputs ctx
  obtain ⟨kept, id', output', mem, map⟩ := takeMain_output ctx (q.named ctx) q.body
  have graph : q.graph ctx = ((q.named ctx).takeMain ctx q.body).graph := by
    rw [Query.graph, takeQuery_eq]
  have same : (id', output') = (id, output) := by
    rwa [← graph, ho, List.mem_singleton] at mem
  obtain ⟨rfl, rfl⟩ := Prod.mk.inj same
  refine ⟨id', output', _, ho, map, ?_⟩
  intro front e back split
  obtain ⟨drawn, colored, drawn_e, own, n, hn, hid, shown⟩ := entry_bears ctx split
  have visible := standing_visibleName distinct split
  refine ⟨n, _, graph ▸ kept hn, hid, shown, ?_⟩
  rw [place?, ← Standing.eq_source_iff, ← visible]
  exact colored.lookup_iff (visible ▸ drawn_e) _

/-- `WITH c AS (SELECT o.x FROM foo o) SELECT t.x FROM c t` -/
theorem color_map_agrees_by_alias :
    ∃ id output colors, (shownByAlias.graph {}).outputs = [(id, output)] ∧
      output.colorMap = some colors ∧ ∃ n color, n ∈ (shownByAlias.graph {}).nodes ∧
        n.id = "cte_2" ∧ n.data.colorIndex? = some color ∧ colors.lookup "t" = some color := by
  obtain ⟨id, output, colors, ho, map, all⟩ :=
    color_map_agrees_iff {} (q := shownByAlias) (by decide)
  obtain ⟨n, color, hn, hid, shown, agrees⟩ := all [] ⟨"c", some "t", none⟩ [] rfl
  refine ⟨id, output, colors, ho, map, n, color, hn, hid.trans (by decide +kernel), shown, ?_⟩
  refine agrees.mpr fun k hk => ?_
  obtain rfl : 0 = k := Option.some.inj hk
  decide +kernel

/-- `WITH c AS (SELECT c.x FROM foo c) SELECT c.x FROM c` -/
theorem color_map_disagrees :
    ¬ ∀ (ctx : BuildContext) (q : Query), (q.body.entries.map FromEntry.visibleName).Nodup →
      ∃ id output colors, (q.graph ctx).outputs = [(id, output)] ∧ output.colorMap = some colors ∧
        ∀ front e back, q.body.entries = front ++ e :: back →
          ∃ n color, n ∈ (q.graph ctx).nodes ∧ n.id = q.nodeOf ctx front e ∧
            n.data.colorIndex? = some color ∧ colors.lookup e.visibleName = some color := by
  intro h
  obtain ⟨id, output, colors, ho, map, all⟩ := h {} hiddenName (by decide)
  obtain ⟨n, color, hn, hid, shown, agrees⟩ := all [] ⟨"c", none, none⟩ [] rfl
  have outputs : (hiddenName.graph {}).outputs = [("output_3",
      ⟨[⟨"x", some "c", some "x", none⟩], none, none, some [("c", 1), ("foo", 1)]⟩)] := by
    decide +kernel
  have node : hiddenName.nodeOf {} [] ⟨"c", none, none⟩ = "cte_2" := by decide +kernel
  have only : ∀ m ∈ (hiddenName.graph {}).nodes, m.id = "cte_2" → m.data.colorIndex? = some 0 := by
    decide +kernel
  have zero := shown.symm.trans (only n hn (hid.trans node))
  rw [outputs] at ho
  cases ho
  cases map
  cases zero
  exact absurd agrees (by decide)

end Query

end QueryFlow
