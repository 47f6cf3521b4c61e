import QueryFlow.Proofs.Colors.Standing

/-!
The colors that a builder draws. A color is drawn for a table when an entry reads it and its name
has none yet, and for every named query. So the colors are the places in a list of owners, and at
every step each name has the color of what it stands for. The main statement says of a run that its
nodes show these colors: a table that of the owner which its entry reads, a named query its own.
-/

namespace QueryFlow

/-- The color of an owner, where colors are drawn for these owners in this order. -/
def colorIn (drawn : List Owner) (o : Owner) : Int := drawn.idxOf o

section

variable {drawn : List Owner} {o o' : Owner}

/-- A color that is drawn stays. -/
theorem colorIn_append (more : List Owner) (h : o ∈ drawn) :
    colorIn (drawn ++ more) o = colorIn drawn o := by
  rw [colorIn, List.idxOf_append_of_mem h, colorIn]

theorem colorIn_inj (h : o ∈ drawn) : colorIn drawn o = colorIn drawn o' ↔ o = o' := by
  rw [colorIn, colorIn, Int.ofNat_inj, List.idxOf_inj h]

end

/-- The table that comes from a reading, with its color. -/
def Reading.shown (drawn : List Owner) (r : Reading) : (String × Option String) × Int :=
  (r.entry.mention, colorIn drawn r.owner)

/-- What a query says about a table node, with the color of the node. -/
def TableSource.shown (t : TableSource) : (String × Option String) × Int :=
  (t.mention, t.colorIndex)

def namedColors (drawn : List Owner) (names : List String) : List (String × Int) :=
  names.zipIdx.map fun x => (x.1, colorIn drawn (.named x.2))

theorem namedColors_append (drawn : List Owner) (names : List String) (name : String) :
    namedColors drawn (names ++ [name]) =
      namedColors drawn names ++ [(name, colorIn drawn (.named names.length))] := by
  simp [namedColors, List.zipIdx_append]

/-- The frame of a named query as its name and its color. -/
def NamedGroup.shown (f : NamedGroup) : String × Int := (f.name, f.colorIndex)

/-- The result of a named query as its name and its color. -/
def NamedResult.shown (r : NamedResult) : String × Int := (r.name, r.colorIndex)

namespace Builder

/-- Each name has the color of what it stands for. A name that has none stands for the table that
bears it, and no color is drawn for that. -/
structure Colored (means : Standing) (drawn : List Owner) (b : Builder) : Prop where
  counted : b.nextColor = drawn.length
  known : ∀ name color, b.colors.lookup name = some color →
    means name ∈ drawn ∧ color = drawn.idxOf (means name)
  unknown : ∀ name, b.colors.lookup name = none →
    means name = .table name ∧ .table name ∉ drawn

variable {ctx : BuildContext} {b c : Builder} {means : Standing} {drawn : List Owner}
  {o : Owner}

namespace Colored

/-- A name is given the color of an owner, after some colors are drawn under it. -/
theorem give (h : Colored means drawn b) (name : String) (more : List Owner)
    (ho : o ∈ drawn ++ more) (own : ∀ t, .table t ∈ more → t = name) :
    Colored (Function.update means name o) (drawn ++ more)
      { b with
        colors := Keyed.assign name ((drawn ++ more).idxOf o) b.colors
        nextColor := b.nextColor + more.length } where
  counted := by rw [List.length_append, ← h.counted]
  known other color found := by
    by_cases same : other = name
    · subst same
      rw [Keyed.lookup_assign_self, Option.some.injEq] at found
      rw [Function.update_self]
      exact ⟨ho, found.symm⟩
    · rw [Keyed.lookup_assign_of_ne _ _ same] at found
      obtain ⟨mem, rfl⟩ := h.known other color found
      rw [Function.update_of_ne same]
      exact ⟨List.mem_append_left _ mem, (List.idxOf_append_of_mem mem).symm⟩
  unknown other none := by
    have ne : other ≠ name := by
      rintro rfl
      simp at none
    rw [Keyed.lookup_assign_of_ne _ _ ne] at none
    obtain ⟨still, free⟩ := h.unknown other none
    refine ⟨(Function.update_of_ne ne o means).trans still, fun mem => ?_⟩
    rcases List.mem_append.mp mem with old | new
    · exact free old
    · exact ne (own other new)

theorem congr (h : Colored means drawn b) (colors : c.colors = b.colors)
    (nextColor : c.nextColor = b.nextColor) : Colored means drawn c where
  counted := nextColor.trans h.counted
  known := colors ▸ h.known
  unknown := colors ▸ h.unknown

/-- A name has a color when what it stands for has one. -/
theorem exists_color (h : Colored means drawn b) {name : String} (mem : means name ∈ drawn) :
    ∃ color, b.colors.lookup name = some color := by
  cases found : b.colors.lookup name with
  | some color => exact ⟨color, rfl⟩
  | none =>
    obtain ⟨still, free⟩ := h.unknown name found
    exact absurd (still ▸ mem) free

/-- The color of a new owner is the next one. -/
theorem next (h : Colored means drawn b) (fresh : o ∉ drawn) (more : List Owner) :
    colorIn (drawn ++ o :: more) o = b.nextColor := by
  rw [colorIn, List.idxOf_append_of_notMem fresh, List.idxOf_cons_self, Nat.add_zero, h.counted]

/-- The next color goes to a new owner. -/
theorem draw (h : Colored means drawn b) (name : String) (fresh : o ∉ drawn)
    (own : ∀ t, o = .table t → t = name) :
    Colored (Function.update means name o) (drawn ++ [o])
      { b with
        colors := Keyed.assign name b.nextColor b.colors
        nextColor := b.nextColor + 1 } := by
  have next : (drawn ++ [o]).idxOf o = b.nextColor := Int.ofNat_inj.mp (h.next fresh [])
  have given := h.give name [o] (List.mem_append_right drawn List.mem_cons_self)
    fun t mem => own t (List.mem_singleton.mp mem).symm
  rw [next] at given
  exact given

/-- An alias takes the color of the name under it. -/
theorem lend (h : Colored means drawn b) (e : FromEntry) {color : Nat}
    (found : b.colors.lookup e.table = some color) :
    Colored (means.behind e) drawn (b.colorAlias e.alias color) := by
  obtain ⟨mem, rfl⟩ := h.known e.table color found
  unfold Standing.behind colorAlias
  cases e.alias with
  | none => exact h
  | some shown =>
    have given := h.give shown [] (List.mem_append_left [] mem) (by simp)
    rw [List.append_nil] at given
    exact given

/-- A table without a color draws one for itself. -/
theorem colorOf (h : Colored means drawn b) (table : String) :
    ∃ more, (∀ o ∈ more, o = .table table ∧ means table = .table table) ∧
      Colored means (drawn ++ more) (b.colorOf table).2 ∧
      (b.colorOf table).2.colors.lookup table = some (b.colorOf table).1 := by
  unfold Builder.colorOf
  cases found : b.colors.lookup table with
  | some color => exact ⟨[], by simp, by rwa [List.append_nil], found⟩
  | none =>
    obtain ⟨still, free⟩ := h.unknown table found
    have drew := h.draw table free fun t same => (Owner.table.inj same).symm
    rw [← still, Function.update_eq_self, still] at drew
    refine ⟨[.table table], fun o ho => ?_, drew, Keyed.lookup_assign_self table _ _⟩
    exact ⟨List.mem_singleton.mp ho, still⟩

end Colored

/-- The nodes of a graph show the colors that are drawn: the tables those of what is read, and the
frames and results of named queries those of the queries. These are the names of the queries that
have a frame, and of those that have a result. -/
structure Shows (framed names : List String) (drawn : List Owner) (reads : List Reading)
    (g : Graph) : Prop where
  inFront : names <+: framed
  named : ∀ k < framed.length, .named k ∈ drawn
  owned : ∀ r ∈ reads, r.owner ∈ drawn
  tables : g.tables.map TableSource.shown = reads.map (Reading.shown drawn)
  frames : g.frames.map NamedGroup.shown = namedColors drawn framed
  results : g.results.map (·.2.shown) = namedColors drawn names

variable {framed names : List String} {reads : List Reading} {g g' : Graph}

/-- Colors that are drawn later change no node. -/
theorem Shows.later (h : Shows framed names drawn reads g) (more : List Owner) :
    Shows framed names (drawn ++ more) reads g := by
  have kept : ∀ some : List String, some.length ≤ framed.length →
      namedColors (drawn ++ more) some = namedColors drawn some := by
    intro some short
    refine List.map_congr_left fun x hx => ?_
    have place : x.2 < some.length := Nat.zero_add some.length ▸ List.snd_lt_add_of_mem_zipIdx hx
    rw [colorIn_append more (h.named x.2 (Nat.lt_of_lt_of_le place short))]
  refine ⟨h.inFront, fun k hk => List.mem_append_left _ (h.named k hk),
    fun r hr => List.mem_append_left _ (h.owned r hr), ?_, ?_, ?_⟩
  · refine h.tables.trans (List.map_congr_left fun r hr => ?_)
    rw [Reading.shown, Reading.shown, colorIn_append more (h.owned r hr)]
  · rw [kept framed le_rfl, h.frames]
  · rw [kept names h.inFront.length_le, h.results]

/-- A table is added for an entry that is read. -/
theorem Shows.table (h : Shows framed names drawn reads g) {n : Node} {t : TableSource}
    {r : Reading} (nodes : g'.nodes = g.nodes ++ [n]) (data : n.data = .table t)
    (owned : r.owner ∈ drawn) (shown : t.shown = r.shown drawn) :
    Shows framed names drawn (reads ++ [r]) g' where
  inFront := h.inFront
  named := h.named
  owned := List.forall_mem_append.mpr ⟨h.owned, List.forall_mem_singleton.mpr owned⟩
  tables := by simp [Graph.tables, nodes, Node.table?, data, ← h.tables, shown]
  frames := by simp [Graph.frames, nodes, Node.frame?, data, ← h.frames]
  results := by simp [Graph.results, nodes, Node.result?, data, ← h.results]

/-- A frame is added for the next named query. -/
theorem Shows.frame (h : Shows framed names drawn reads g) {n : Node} {f : NamedGroup}
    (nodes : g'.nodes = g.nodes ++ [n]) (data : n.data = .group f)
    (mem : .named framed.length ∈ drawn)
    (shown : f.colorIndex = colorIn drawn (.named framed.length)) :
    Shows (framed ++ [f.name]) names drawn reads g' where
  inFront := h.inFront.trans (List.prefix_append framed [f.name])
  named k hk := by
    rw [List.length_append, List.length_singleton] at hk
    rcases Nat.lt_succ_iff_lt_or_eq.mp hk with old | rfl
    · exact h.named k old
    · exact mem
  owned := h.owned
  tables := by simp [Graph.tables, nodes, Node.table?, data, ← h.tables]
  frames := by
    rw [namedColors_append, ← h.frames]
    simp [Graph.frames, nodes, Node.frame?, data, NamedGroup.shown, shown]
  results := by simp [Graph.results, nodes, Node.result?, data, ← h.results]

/-- A result is added for the next of the named queries that have a frame. -/
theorem Shows.result (h : Shows framed names drawn reads g) {n : Node} {r : NamedResult}
    (nodes : g'.nodes = g.nodes ++ [n]) (data : n.data = .named r)
    (inFront : names ++ [r.name] <+: framed)
    (shown : r.colorIndex = colorIn drawn (.named names.length)) :
    Shows framed (names ++ [r.name]) drawn reads g' where
  inFront := inFront
  named := h.named
  owned := h.owned
  tables := by simp [Graph.tables, nodes, Node.table?, data, ← h.tables]
  frames := by simp [Graph.frames, nodes, Node.frame?, data, ← h.frames]
  results := by
    rw [namedColors_append, ← h.results]
    simp [Graph.results, nodes, Node.result?, data, NamedResult.shown, shown]

theorem Shows.length_results (h : Shows framed names drawn reads g) :
    g.results.length = names.length := by
  simpa [namedColors] using congrArg List.length h.results

/-- The result at a place has the color of the named query there. -/
theorem Shows.result_at (h : Shows framed names drawn reads g) {k : Nat} {x : String × NamedResult}
    (found : g.results[k]? = some x) :
    .named k ∈ drawn ∧ x.2.colorIndex = colorIn drawn (.named k) := by
  have there := congrArg (·[k]?) h.results
  simp only [namedColors, List.getElem?_map, found, Option.map_some, List.getElem?_zipIdx,
    Nat.zero_add] at there
  obtain ⟨y, hy, same⟩ := Option.map_eq_some_iff.mp there.symm
  obtain ⟨name, hn, rfl⟩ := Option.map_eq_some_iff.mp hy
  obtain ⟨hk, _⟩ := List.getElem?_eq_some_iff.mp hn
  exact ⟨h.named k (Nat.lt_of_lt_of_le hk h.inFront.length_le), (Prod.mk.inj same).2.symm⟩

/-- The node of this id has the color of an owner. -/
def Bears (drawn : List Owner) (nodes : List Node) (id : String) (o : Owner) : Prop :=
  o ∈ drawn ∧ ∃ n ∈ nodes, n.id = id ∧ n.data.colorIndex? = some (colorIn drawn o)

/-- Each name is bound to the result at its last place among these names. -/
def Bind (bound : List (String × String)) (results : List (String × NamedResult))
    (names : List String) : Prop :=
  ∀ name, Option.Rel (fun id k => ∃ r, results[k]? = some (id, r)) (bound.lookup name)
    (lastPlace? names name)

theorem Bind.lookup_eq_none_iff {bound : List (String × String)}
    {results : List (String × NamedResult)} (h : Bind bound results names) {name : String} :
    bound.lookup name = none ↔ name ∉ names := by
  rw [← lastPlace?_eq_none_iff]
  have meant := h name
  generalize bound.lookup name = x, lastPlace? names name = y at meant
  cases meant <;> simp

theorem Bind.append {bound : List (String × String)} {results : List (String × NamedResult)}
    (h : Bind bound results names) (size : results.length = names.length)
    (name id : String) (r : NamedResult) :
    Bind (Keyed.assign name id bound) (results ++ [(id, r)]) (names ++ [name]) := by
  intro other
  rw [lastPlace?_append]
  by_cases same : name = other
  · subst same
    rw [Keyed.lookup_assign_self, if_pos rfl]
    exact .some ⟨r, by rw [← size, List.getElem?_concat_length]⟩
  · rw [Keyed.lookup_assign_of_ne _ _ (Ne.symm same), if_neg same]
    have old := h other
    generalize bound.lookup other = x, lastPlace? names other = y at old
    cases old with
    | none => exact .none
    | some found =>
      obtain ⟨r', found⟩ := found
      exact .some ⟨r', List.getElem?_append_left (List.getElem?_eq_some_iff.mp found).1 ▸ found⟩

/-- The colors of a builder that has opened frames for the first names and bound the second. -/
structure Painted (framed names : List String) (means : Standing) (drawn : List Owner)
    (reads : List Reading) (b : Builder) : Prop where
  colored : Colored means drawn b
  shows : Shows framed names drawn reads b.graph
  fresh : ∀ k, .named k ∈ drawn → k < framed.length
  first : ∀ t, .table t ∈ drawn → ∃ r ∈ reads, r.entry.table = t ∧ r.owner = .table t
  kept : ∀ name ∈ framed, means name ∈ drawn
  meant : Bind b.results b.graph.results names

/-- Nothing differs that has a color or gives one. -/
structure SameColors (b c : Builder) : Prop where
  colors : c.colors = b.colors
  nextColor : c.nextColor = b.nextColor
  bound : c.results = b.results
  tables : c.graph.tables = b.graph.tables
  frames : c.graph.frames = b.graph.frames
  results : c.graph.results = b.graph.results

theorem SameColors.trans {d : Builder} (h : SameColors b c) (h' : SameColors c d) :
    SameColors b d where
  colors := h'.colors.trans h.colors
  nextColor := h'.nextColor.trans h.nextColor
  bound := h'.bound.trans h.bound
  tables := h'.tables.trans h.tables
  frames := h'.frames.trans h.frames
  results := h'.results.trans h.results

theorem addNode_sameColors (b : Builder) (parent : Option String) {data : NodeData}
    (plain : data.colorIndex? = none) : SameColors b (b.addNode parent data).2 := by
  cases data with
  | table | named | group => cases plain
  | join | filter | aggregation | output =>
    exact ⟨rfl, rfl, rfl, by simp [graph, Graph.tables, Node.table?],
      by simp [graph, Graph.frames, Node.frame?], by simp [graph, Graph.results, Node.result?]⟩

theorem addEdgeFrom_sameColors (b : Builder) (source : Option String) (target : String)
    (columns : Option (List String)) : SameColors b (b.addEdgeFrom source target columns) := by
  cases source <;> exact ⟨rfl, rfl, rfl, rfl, rfl, rfl⟩

theorem addJoin_sameColors (ctx : BuildContext) (b : Builder) (parent : Option String)
    (m : JoinMarker) (left right : String) :
    SameColors b (b.addJoin ctx parent m left right).2 :=
  (addNode_sameColors b parent rfl).trans ((addEdgeFrom_sameColors _ (some left) _ _).trans
    (addEdgeFrom_sameColors _ (some right) _ _))

/-- Once an entry is read, no more gets a color for it. -/
theorem takeEntry_sameColors (ctx : BuildContext) (parent last : Option String) (b : Builder)
    (e : FromEntry) :
    SameColors (b.readEntry ctx parent e).2 (takeEntry ctx parent (last, b) e).2 := by
  rcases takeEntry_cases ctx parent last b e with ⟨m, left, _, _, taken⟩ | ⟨_, taken⟩
  · rw [taken]
    exact addJoin_sameColors ctx _ parent m left _
  · rw [taken]
    exact ⟨rfl, rfl, rfl, rfl, rfl, rfl⟩

theorem extend_sameColors (b : Builder) (parent last : Option String) {data : NodeData}
    (plain : data.colorIndex? = none) : SameColors b (b.extend parent last data).2 :=
  (addNode_sameColors b parent plain).trans (addEdgeFrom_sameColors _ last _ _)

theorem filtered_sameColors (ctx : BuildContext) (parent : Option String) (s : Selection)
    (step : Option String × Builder) : SameColors step.2 (filtered ctx parent s step).2 := by
  unfold filtered
  cases s.condition with
  | none => exact ⟨rfl, rfl, rfl, rfl, rfl, rfl⟩
  | some c => exact extend_sameColors step.2 parent step.1 rfl

theorem aggregated_sameColors (ctx : BuildContext) (parent : Option String) (s : Selection)
    (step : Option String × Builder) : SameColors step.2 (aggregated ctx parent s step).2 := by
  unfold aggregated
  split
  · exact ⟨rfl, rfl, rfl, rfl, rfl, rfl⟩
  · exact extend_sameColors step.2 parent step.1 rfl

/-- Behind the entries of a SELECT nothing gets a color. -/
theorem takeInner_sameColors (ctx : BuildContext) (b : Builder) (parent : Option String)
    (s : Selection) :
    SameColors (s.entries.foldl (takeEntry ctx parent)
      (none, { b with usage := Usage.ofSelection s })).2 (b.takeInner ctx parent s).2 := by
  rw [takeInner_eq]
  exact (filtered_sameColors ctx parent s _).trans (aggregated_sameColors ctx parent s _)

namespace Painted

theorem sameColors (h : Painted framed names means drawn reads b) (same : SameColors b c) :
    Painted framed names means drawn reads c where
  colored := h.colored.congr same.colors same.nextColor
  shows :=
    { h.shows with
      tables := same.tables ▸ h.shows.tables
      frames := same.frames ▸ h.shows.frames
      results := same.results ▸ h.shows.results }
  fresh := h.fresh
  first := h.first
  kept := h.kept
  meant := by
    rw [same.bound, same.results]
    exact h.meant

theorem unused (h : Painted framed names means drawn reads b) : .named framed.length ∉ drawn :=
  fun mem => Nat.lt_irrefl _ (h.fresh _ mem)

/-- The result that a name is bound to has the color of the named query that the name means. -/
theorem result_bears (h : Painted framed names means drawn reads b) {e : FromEntry} {id : String}
    (bound : b.results.lookup e.table = some id) :
    Bears drawn b.nodes id (means.source names e) := by
  have meant := h.meant e.table
  rw [bound] at meant
  unfold Standing.source
  generalize lastPlace? names e.table = place at meant
  cases meant with
  | some there =>
    obtain ⟨r, there⟩ := there
    obtain ⟨own, shown⟩ := h.shows.result_at there
    obtain ⟨n, hn, hid, hr⟩ := Graph.mem_results.mp (List.mem_of_getElem? there)
    exact ⟨own, n, hn, hid, by rw [hr, NodeData.colorIndex?, shown]⟩

/-- A bound name lends its color to an alias, and no color is drawn. -/
theorem readBound (h : Painted framed names means drawn reads b) (parent : Option String)
    {e : FromEntry} (bound : e.table ∈ names) :
    Painted framed names (means.behind e) drawn reads (b.readEntry ctx parent e).2 ∧
      Bears drawn (b.readEntry ctx parent e).2.nodes (b.readEntry ctx parent e).1
        (means.source names e) := by
  have mem := h.kept e.table (h.shows.inFront.subset bound)
  obtain ⟨color, found⟩ := h.colored.exists_color mem
  obtain ⟨id, hid⟩ :=
    Option.ne_none_iff_exists'.mp (mt h.meant.lookup_eq_none_iff.mp (not_not_intro bound))
  have read : b.readEntry ctx parent e = (id, b.colorAlias e.alias color) := by
    simp only [Builder.readEntry, hid, found]
  have same := colorAlias_sameFlow b e.alias color
  rw [read, same.nodes]
  refine ⟨⟨h.colored.lend e found, ?_, h.fresh, h.first, ?_, ?_⟩, h.result_bears hid⟩
  · rw [graph, same.nodes, same.edges]
    exact h.shows
  · exact fun name hn => Standing.behind_mem (h.kept name hn) mem
  · rw [graph, same.nodes, same.edges, same.results]
    exact h.meant

/-- A name that is not bound draws a color when it has none, and its table node shows its color. -/
theorem readTable (h : Painted framed names means drawn reads b) (parent : Option String)
    {e : FromEntry} (unbound : e.table ∉ names) :
    ∃ more, means e.table ∈ drawn ++ more ∧
      Painted framed names (means.behind e) (drawn ++ more) (reads ++ [⟨e, means e.table⟩])
        (b.readEntry ctx parent e).2 ∧
      Bears (drawn ++ more) (b.readEntry ctx parent e).2.nodes (b.readEntry ctx parent e).1
        (means.source names e) := by
  obtain ⟨more, tables, colored, found⟩ := h.colored.colorOf e.table
  obtain ⟨mem, color⟩ := colored.known e.table _ found
  -- The alias gets its color before the node is added, and no node changes by that.
  let lent := (b.colorOf e.table).2.colorAlias e.alias (b.colorOf e.table).1
  let t : TableSource :=
    ⟨e.table, e.alias, lent.usage.keep e.table e.alias (ctx.columns e.table), (b.colorOf e.table).1⟩
  have same : SameFlow b lent := (colorOf_sameFlow b e.table).trans (colorAlias_sameFlow _ _ _)
  have read : b.readEntry ctx parent e = lent.addNode parent (.table t) := by
    rw [Builder.readEntry, h.meant.lookup_eq_none_iff.mpr unbound]
    rfl
  have shown : t.colorIndex = colorIn (drawn ++ more) (means e.table) := congrArg Int.ofNat color
  let n : Node := ⟨nodeId .table lent.counter, .table t, parent⟩
  have nodes : (lent.addNode parent (.table t)).2.nodes = b.nodes ++ [n] := by
    rw [addNode_nodes, same.nodes]
    rfl
  have results : (lent.addNode parent (.table t)).2.graph.results = b.graph.results := by
    rw [Graph.results, graph, nodes, List.filterMap_append]
    exact List.append_nil _
  have source : means.source names e = means e.table := by
    rw [Standing.source, lastPlace?_eq_none_iff.mpr unbound]
  rw [read, source]
  refine ⟨more, mem, ?_, mem, n, nodes ▸ List.mem_append_right _ List.mem_cons_self, rfl,
    congrArg some shown⟩
  refine ⟨?_, ?_, ?_, ?_, ?_, ?_⟩
  · exact (colored.lend e found).congr rfl rfl
  · exact (h.shows.later more).table nodes rfl mem (Prod.ext rfl shown)
  · intro k hk
    rcases List.mem_append.mp hk with old | new
    · exact h.fresh k old
    · obtain ⟨same, _⟩ := tables _ new
      cases same
  · intro table ht
    rcases List.mem_append.mp ht with old | new
    · obtain ⟨r, hr, first⟩ := h.first table old
      exact ⟨r, List.mem_append_left _ hr, first⟩
    · obtain ⟨same, own⟩ := tables _ new
      obtain rfl := Owner.table.inj same
      exact ⟨_, List.mem_append_right _ List.mem_cons_self, rfl, own⟩
  · exact fun name hn => Standing.behind_mem (List.mem_append_left _ (h.kept name hn)) mem
  · rw [results, addNode_results, same.results]
    exact h.meant

/-- Once an entry is read, what its name means has a color, and its node has the color of its
source. -/
theorem readEntry (h : Painted framed names means drawn reads b) (ctx : BuildContext)
    (parent : Option String) (e : FromEntry) :
    ∃ more, means e.table ∈ drawn ++ more ∧
      Painted framed names (means.behind e) (drawn ++ more) (reads ++ means.read names e)
        (b.readEntry ctx parent e).2 ∧
      Bears (drawn ++ more) (b.readEntry ctx parent e).2.nodes (b.readEntry ctx parent e).1
        (means.source names e) := by
  unfold Standing.read
  by_cases bound : e.table ∈ names
  · refine ⟨[], List.mem_append_left [] (h.kept e.table (h.shows.inFront.subset bound)), ?_⟩
    rw [if_pos (List.contains_iff_mem.mpr bound), List.append_nil, List.append_nil]
    exact h.readBound parent bound
  · rw [if_neg (mt List.contains_iff_mem.mp bound)]
    exact h.readTable parent bound

theorem takeEntries (ctx : BuildContext) (parent : Option String) (entries : List FromEntry)
    (step : Option String × Builder) (h : Painted framed names means drawn reads step.2) :
    ∃ more, Painted framed names (entries.foldl Standing.behind means) (drawn ++ more)
      (reads ++ means.readAll names entries)
      (entries.foldl (Builder.takeEntry ctx parent) step).2 := by
  induction entries generalizing means drawn reads step with
  | nil => exact ⟨[], by simpa [Standing.readAll] using h⟩
  | cons e rest ih =>
    obtain ⟨more, _, read, _⟩ := h.readEntry ctx parent e
    obtain ⟨others, all⟩ := ih _ (read.sameColors (takeEntry_sameColors ctx parent step.1 step.2 e))
    refine ⟨more ++ others, ?_⟩
    rw [← List.append_assoc, Standing.readAll, ← List.append_assoc]
    exact all

/-- A SELECT reads its entries. -/
theorem takeInner (h : Painted framed names means drawn reads b) (ctx : BuildContext)
    (parent : Option String) (s : Selection) :
    ∃ more, Painted framed names (s.entries.foldl Standing.behind means) (drawn ++ more)
      (reads ++ means.readAll names s.entries) (b.takeInner ctx parent s).2 := by
  have start : Painted framed names means drawn reads { b with usage := Usage.ofSelection s } :=
    h.sameColors ⟨rfl, rfl, rfl, rfl, rfl, rfl⟩
  obtain ⟨more, all⟩ := takeEntries ctx parent s.entries
    (none, { b with usage := Usage.ofSelection s }) start
  exact ⟨more, all.sameColors (takeInner_sameColors ctx b parent s)⟩

/-- The frame of a named query draws a color for it, under its name. -/
theorem openFrame (h : Painted framed names means drawn reads b) (name : String) :
    Painted (framed ++ [name]) names (Function.update means name (.named framed.length))
      (drawn ++ [.named framed.length]) reads (b.opened name).2 := by
  have unused := h.unused
  have drew := h.colored.draw name unused (by simp)
  have results : (b.opened name).2.graph.results = b.graph.results := by
    simp [Builder.opened, Graph.results, graph, Node.result?]
  refine ⟨drew.congr rfl rfl, ?_, ?_, ?_, ?_, ?_⟩
  · exact (h.shows.later [.named framed.length]).frame (f := ⟨name, b.nextColor⟩) rfl rfl
      (List.mem_append_right _ List.mem_cons_self) (h.colored.next unused []).symm
  · intro k hk
    rw [List.length_append, List.length_singleton]
    rcases List.mem_append.mp hk with old | new
    · exact Nat.lt_succ_of_lt (h.fresh k old)
    · obtain rfl := Owner.named.inj (List.mem_singleton.mp new)
      exact Nat.lt_succ_self _
  · intro t ht
    rcases List.mem_append.mp ht with old | new
    · exact h.first t old
    · simp at new
  · intro other hn
    by_cases same : other = name
    · subst same
      rw [Function.update_self]
      exact List.mem_append_right _ List.mem_cons_self
    · rw [Function.update_of_ne same]
      have old : other ∈ framed := by simpa [same] using hn
      exact List.mem_append_left _ (h.kept other old)
  · rw [results]
    exact h.meant

/-- The result of a named query has the color of its frame, and its name is bound. -/
theorem close {r : NamedResult} (h : Painted (names ++ [r.name]) names means drawn reads b)
    (last : Option String) (shown : r.colorIndex = colorIn drawn (.named names.length)) :
    let result := b.addNode none (.named r)
    let closed := result.2.addEdgeFrom last result.1 none
    Painted (names ++ [r.name]) (names ++ [r.name]) means drawn reads
      { closed with results := Keyed.assign r.name result.1 closed.results } := by
  intro result closed
  have nodes : closed.graph.nodes = b.nodes ++ [⟨result.1, .named r, none⟩] := by
    rw [graph, addEdgeFrom_nodes]
    rfl
  have results : closed.graph.results = b.graph.results ++ [(result.1, r)] := by
    rw [Graph.results, nodes, List.filterMap_append]
    rfl
  have same : closed.colors = b.colors ∧ closed.nextColor = b.nextColor ∧
      closed.results = b.results := by
    cases last <;> exact ⟨rfl, rfl, rfl⟩
  refine ⟨h.colored.congr same.1 same.2.1, ?_, h.fresh, h.first, h.kept, ?_⟩
  · exact h.shows.result nodes rfl List.prefix_rfl shown
  · have meant := h.meant.append h.shows.length_results r.name result.1 r
    rw [← results, ← same.2.2] at meant
    exact meant

theorem takeNamed (h : Painted names names means drawn reads b) (ctx : BuildContext) (name : String)
    (s : Selection) :
    let within := means.inside names.length (.named name s)
    ∃ more, Painted (names ++ [name]) (names ++ [name]) (s.entries.foldl Standing.behind within)
      (drawn ++ more) (reads ++ within.readAll names s.entries) (b.takeNamed ctx name s) := by
  obtain ⟨more, inner⟩ := (h.openFrame name).takeInner ctx (some (b.opened name).1) s
  rw [List.append_assoc] at inner
  refine ⟨.named names.length :: more, ?_⟩
  rw [takeNamed_eq]
  exact close (r := ⟨name, _, _, _, b.nextColor⟩) inner _ (h.colored.next h.unused more).symm

theorem takeMain (h : Painted names names means drawn reads b) (ctx : BuildContext)
    (s : Selection) :
    ∃ more, Painted names names (s.entries.foldl Standing.behind means) (drawn ++ more)
      (reads ++ means.readAll names s.entries) (b.takeMain ctx s) := by
  obtain ⟨more, inner⟩ := h.takeInner ctx none s
  obtain ⟨output, _, taken⟩ := takeMain_eq ctx b s
  refine ⟨more, ?_⟩
  rw [taken]
  exact inner.sameColors
    ((addNode_sameColors _ none rfl).trans (addEdgeFrom_sameColors _ _ _ _))

/-- Every call reads its entries, and binds its name. -/
theorem take (h : Painted names names means drawn reads b) (ctx : BuildContext) (call : Call) :
    let within := means.inside names.length call
    ∃ more, Painted (names ++ call.name?.toList) (names ++ call.name?.toList)
      (call.body.entries.foldl Standing.behind within) (drawn ++ more)
      (reads ++ within.readAll names call.body.entries) (Builder.take ctx b call) := by
  cases call with
  | named name s => exact h.takeNamed ctx name s
  | main s =>
    obtain ⟨more, all⟩ := h.takeMain ctx s
    exact ⟨more, (List.append_nil names).symm ▸ all⟩

theorem takeAll (ctx : BuildContext) (calls : List Call)
    (h : Painted names names means drawn reads b) :
    ∃ more, Painted (names ++ calls.flatMap (·.name?.toList))
      (names ++ calls.flatMap (·.name?.toList)) (means.after names calls) (drawn ++ more)
      (reads ++ Standing.readings names means calls) (calls.foldl (Builder.take ctx) b) := by
  induction calls generalizing names means drawn reads b with
  | nil => exact ⟨[], by simpa [Standing.readings, Standing.after] using h⟩
  | cons call rest ih =>
    obtain ⟨more, first⟩ := h.take ctx call
    obtain ⟨others, all⟩ := ih first
    refine ⟨more ++ others, ?_⟩
    rw [List.flatMap_cons, ← List.append_assoc, ← List.append_assoc, Standing.readings,
      ← List.append_assoc]
    exact all

end Painted

theorem start_painted : Painted [] [] Owner.table [] [] {} where
  colored := ⟨rfl, by simp, fun name _ => ⟨rfl, by simp⟩⟩
  shows := ⟨List.prefix_rfl, by simp, by simp, rfl, rfl, rfl⟩
  fresh := by simp
  first := by simp
  kept := by simp
  meant name := .none

/-- After every run the nodes show the colors that are drawn, and each name has the color of what
it stands for. -/
theorem run_painted (ctx : BuildContext) (calls : List Call) :
    ∃ drawn, Painted (calls.flatMap (·.name?.toList)) (calls.flatMap (·.name?.toList))
      (Standing.after [] Owner.table calls) drawn (Standing.readings [] Owner.table calls)
      (run ctx calls) := by
  obtain ⟨drawn, all⟩ := start_painted.takeAll ctx calls
  exact ⟨drawn, all⟩

end Builder

end QueryFlow
