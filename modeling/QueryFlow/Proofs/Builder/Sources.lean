import QueryFlow.Proofs.Builder.Growth
import QueryFlow.Proofs.Builder.Sound

/-!
The tables, results and outputs of a run. Every entry of a FROM clause that is not bound to a result
becomes one table node, in the order of the text, and a query ends in its only output. Columns of
tables are not looked at here.
-/

namespace QueryFlow

namespace Builder

/-- The entries that are not bound to a result. -/
def unbound (b : Builder) (entries : List FromEntry) : List FromEntry :=
  entries.filter fun e => (b.results.lookup e.table).isNone

/-- The entries that calls read from tables, where some names are bound before them. -/
def tableEntries (names : List String) : List Call → List FromEntry
  | [] => []
  | call :: rest =>
    call.body.entries.filter (fun e => !names.contains e.table)
      ++ tableEntries (names ++ call.name?.toList) rest

variable {ctx : BuildContext} {d : Sql.Dialect} {meaning : String → Option String} {b c : Builder}
  {parent front : Option String} {links : List Link} {p : Part}

/-- The tables of a chain are the entries whose name means nothing. -/
theorem Linked.mentions (h : Linked d meaning parent front links) :
    ((links.flatMap (·.input.node?.toList)).filterMap Node.table?).map TableSource.mention =
      ((links.map (·.entry)).filter fun e => (meaning e.table).isNone).map FromEntry.mention := by
  induction h with
  | nil => rfl
  | @cons _ l _ input _ _ ih =>
    rw [List.flatMap_cons, List.filterMap_append, List.map_append, ih]
    cases hi : l.input with
    | result id =>
      rw [hi] at input
      have bound : meaning l.entry.table = some id := input
      simp [Input.node?, bound]
    | table n =>
      rw [hi] at input
      obtain ⟨free, _, t, hd, mention⟩ := input
      simp [Input.node?, Node.table?, hd, free, mention]

/-- The tables of a part are the entries of its call whose name means nothing. -/
theorem Part.Fits.mentions (h : p.Fits ctx meaning) :
    (p.nodes.filterMap Node.table?).map TableSource.mention =
      (p.call.body.entries.filter fun e => (meaning e.table).isNone).map FromEntry.mention := by
  have only : p.nodes.filterMap Node.table? = p.tables.filterMap Node.table? := by
    rw [← h.tables_eq, List.filterMap_filter]
    refine List.filterMap_congr fun n _ => ?_
    split
    · rfl
    · exact Node.table?_eq_none_iff.mpr (by simp_all)
  rw [only, Part.tables, h.links.mentions, h.entries]

/-- What is read off results only is read off the result of a part. -/
theorem Part.Fits.filterMap_nodes {α : Type} (h : p.Fits ctx meaning) {f : Node → Option α}
    (only : ∀ n, n.kind ≠ .named → n.kind ≠ .output → f n = none) :
    p.nodes.filterMap f = (f p.result).toList := by
  have others : (p.frame.toList ++ p.inner).filterMap f = [] := by
    refine List.filterMap_eq_nil_iff.mpr fun n hn => ?_
    rcases List.mem_append.mp hn with hn | hn
    · have opens := h.frame
      rw [Option.mem_toList.mp hn] at opens
      exact only n (by simp [opens.of_some.1]) (by simp [opens.of_some.1])
    · have inner := (h.inner_kind n hn).1
      exact only n (fun hk => by simp [hk, NodeKind.isInner] at inner)
        fun hk => by simp [hk, NodeKind.isInner] at inner
  rw [Part.nodes, List.filterMap_append, others, List.nil_append]
  cases hf : f p.result <;> simp [hf]

/-- Only a named query has a frame, which has its name. -/
theorem Part.Fits.frames (h : p.Fits ctx meaning) :
    (p.nodes.filterMap Node.frame?).map (·.name) = p.call.name?.toList := by
  have others : (p.inner ++ [p.result]).filterMap Node.frame? = [] := by
    refine List.filterMap_eq_nil_iff.mpr fun n hn => Node.frame?_eq_none_iff.mpr fun group => ?_
    rcases List.mem_append.mp hn with hn | hn
    · have inner := (h.inner_kind n hn).1
      simp [group, NodeKind.isInner] at inner
    · rw [List.mem_singleton.mp hn] at group
      rcases h.result.kind.1 with ends | ends <;> rw [ends] at group <;> cases group
  rw [Part.nodes, List.append_assoc, List.filterMap_append, others, List.append_nil]
  have opens := h.frame
  cases call : p.call with
  | main s =>
    cases frame : p.frame with
    | none => rfl
    | some f =>
      rw [call, frame] at opens
      exact opens.elim
  | named name s =>
    cases frame : p.frame with
    | none =>
      rw [call, frame] at opens
      exact opens.elim
    | some f =>
      rw [call, frame] at opens
      obtain ⟨-, group, data, named⟩ := opens
      simp [Node.frame?, data, named, Call.name?]

/-- A call keeps the nodes that are there and adds a table for each of its unbound entries. -/
theorem take_tables (ctx : BuildContext) (b : Builder) (call : Call) :
    (take ctx b call).graph.tables.map TableSource.mention =
      b.graph.tables.map TableSource.mention
        ++ (b.unbound call.body.entries).map FromEntry.mention := by
  obtain ⟨p, rfl, gains⟩ := take_gains ctx b call
  rw [Graph.tables, graph, gains.nodes, List.filterMap_append, List.map_append, gains.fits.mentions]
  rfl

theorem Gains.outputs (h : Gains ctx b c p) : c.graph.outputs =
    b.graph.outputs ++ (p.result.output?.map (p.result.id, ·)).toList := by
  rw [Graph.outputs, graph, h.nodes, List.filterMap_append, h.fits.filterMap_nodes]
  · rfl
  · exact fun n _ output => by rw [Node.output?_eq_none_iff.mpr output, Option.map_none]

theorem Gains.results (h : Gains ctx b c p) : c.graph.results =
    b.graph.results ++ (p.result.result?.map (p.result.id, ·)).toList := by
  rw [Graph.results, graph, h.nodes, List.filterMap_append, h.fits.filterMap_nodes]
  · rfl
  · exact fun n named _ => by rw [Node.result?_eq_none_iff.mpr named, Option.map_none]

theorem takeNamed_outputs (ctx : BuildContext) (b : Builder) (name : String) (s : Selection) :
    (b.takeNamed ctx name s).graph.outputs = b.graph.outputs := by
  obtain ⟨p, hc, gains⟩ := takeNamed_gains ctx b name s
  have ends := gains.fits.result
  rw [hc] at ends
  obtain ⟨_, r, hd, _⟩ := ends
  simp [gains.outputs, Node.output?, hd]

theorem takeMain_outputs (ctx : BuildContext) (b : Builder) (s : Selection) :
    ∃ output id, (b.takeMain ctx s).graph.outputs = b.graph.outputs ++ [(id, output)] ∧
      output.columns = columnsOf ctx.dialect s := by
  obtain ⟨p, hc, gains⟩ := takeMain_gains ctx b s
  have ends := gains.fits.result
  rw [hc] at ends
  obtain ⟨_, output, hd, columns⟩ := ends
  exact ⟨output, p.result.id, by simp [gains.outputs, Node.output?, hd], columns⟩

/-- A call binds its name and no other. -/
theorem take_lookup_eq_none (ctx : BuildContext) (b : Builder) (call : Call) (t : String) :
    (take ctx b call).results.lookup t = none ↔
      b.results.lookup t = none ∧ t ∉ call.name?.toList := by
  obtain ⟨p, rfl, gains⟩ := take_gains ctx b call
  have meant := gains.meaning t
  rw [Builder.meaning, Builder.meaning] at meant
  rw [meant]
  by_cases ht : p.call.name? = some t <;> simp [ht]

theorem foldl_tables (ctx : BuildContext) (calls : List Call) {b : Builder} {names : List String}
    (hb : ∀ t, b.results.lookup t = none ↔ t ∉ names) :
    (calls.foldl (take ctx) b).graph.tables.map TableSource.mention =
      b.graph.tables.map TableSource.mention
        ++ (tableEntries names calls).map FromEntry.mention := by
  induction calls generalizing b names with
  | nil => simp [tableEntries]
  | cons call rest ih =>
    have bound : ∀ t, (take ctx b call).results.lookup t = none ↔
        t ∉ names ++ call.name?.toList := by
      intro t
      rw [take_lookup_eq_none, hb, List.mem_append, not_or]
    have same : b.unbound call.body.entries =
        call.body.entries.filter fun e => !names.contains e.table := by
      refine List.filter_congr fun e _ => ?_
      rw [Bool.eq_iff_iff, Option.isNone_iff_eq_none, hb]
      simp
    rw [List.foldl_cons, ih bound, take_tables, same, tableEntries, List.map_append,
      List.append_assoc]

/-- The tables of a run are the entries that its calls read from tables, in order. -/
theorem run_tables (ctx : BuildContext) (calls : List Call) :
    (run ctx calls).graph.tables.map TableSource.mention =
      (tableEntries [] calls).map FromEntry.mention :=
  foldl_tables ctx calls (by simp)

/-- A call keeps the frames that are there and adds one for a named query. -/
theorem take_frames (ctx : BuildContext) (b : Builder) (call : Call) :
    (take ctx b call).graph.frames.map (·.name) =
      b.graph.frames.map (·.name) ++ call.name?.toList := by
  obtain ⟨p, rfl, gains⟩ := take_gains ctx b call
  rw [Graph.frames, graph, gains.nodes, List.filterMap_append, List.map_append, gains.fits.frames]
  rfl

/-- The frames of a run have the names of its named queries, in order. -/
theorem run_frames (ctx : BuildContext) (calls : List Call) :
    (run ctx calls).graph.frames.map (·.name) = calls.filterMap Call.name? := by
  have more (calls : List Call) (b : Builder) :
      (calls.foldl (take ctx) b).graph.frames.map (·.name) =
        b.graph.frames.map (·.name) ++ calls.filterMap Call.name? := by
    induction calls generalizing b with
    | nil => simp
    | cons call rest ih =>
      rw [List.foldl_cons, ih, take_frames, List.append_assoc]
      cases named : call.name? <;> simp [named]
  exact more calls {}

end Builder

namespace Query

/-- The entries of a query that are read from tables, in the order of their nodes: an entry of a
named query sees the names in front of it, one of the main query sees them all. -/
def tableEntries (q : Query) : List FromEntry := Builder.tableEntries [] q.calls

/-- The tables of a query's graph are the entries that the query reads from tables. -/
theorem graph_tables (ctx : BuildContext) (q : Query) :
    (q.graph ctx).tables.map TableSource.mention = q.tableEntries.map FromEntry.mention := by
  rw [graph, takeQuery_run, Builder.run_tables, tableEntries]

/-- The frames of a query's graph have the names of its named queries, in their order. -/
theorem graph_frames (ctx : BuildContext) (q : Query) :
    (q.graph ctx).frames.map (·.name) = q.bindings.map (·.name) := by
  rw [graph, takeQuery_run, Builder.run_frames, calls, List.filterMap_append, List.filterMap_map]
  simp [Function.comp_def, Builder.Call.name?]

/-- Named queries have no output. -/
theorem named_outputs (ctx : BuildContext) (q : Query) : (q.named ctx).graph.outputs = [] := by
  have step : ∀ (bs : List Binding) (b : Builder), b.graph.outputs = [] →
      ((bs.map fun x => Builder.Call.named x.name x.body).foldl (Builder.take ctx)
        b).graph.outputs = [] := by
    intro bs
    induction bs with
    | nil => exact fun b hb => hb
    | cons x rest ih => exact fun b hb => ih _ ((Builder.takeNamed_outputs ctx b _ _).trans hb)
  exact step q.bindings {} rfl

/-- The graph of a query has one output, with the columns of the main query. -/
theorem graph_outputs (ctx : BuildContext) (q : Query) :
    ∃ id output, (q.graph ctx).outputs = [(id, output)] ∧
      output.columns = Builder.columnsOf ctx.dialect q.body := by
  obtain ⟨output, id, ho, hc⟩ := Builder.takeMain_outputs ctx (q.named ctx) q.body
  rw [named_outputs, List.nil_append] at ho
  exact ⟨id, output, by rw [graph, takeQuery_eq, ho], hc⟩

/-- A name that is bound in front of the main query stands for a result in the graph. -/
theorem graph_hasResult (ctx : BuildContext) (q : Query) {name id : String}
    (h : (q.named ctx).results.lookup name = some id) :
    Builder.HasResult (q.graph ctx).nodes name id := by
  have named := (Builder.run_sound ctx _).bound name id h
  obtain ⟨p, _, gains⟩ := Builder.takeMain_gains ctx (q.named ctx) q.body
  rw [graph, takeQuery_eq, Builder.graph, gains.nodes]
  exact named.append _

end Query

end QueryFlow
