import QueryFlow.Proofs.Builder.Sources
import QueryFlow.Proofs.Lineage.Inflow

/-!
What flows into the result of a query, read off the query itself. A named query hands an offer on to
the queries behind it: its columns, and what flows into it. Each call extends the graph at its end,
so an offer that was made stays as it is. The main statements are that the output and the results in
the graph of a query are what the query says.
-/

namespace QueryFlow

namespace Graph

variable {g g' : Graph}

/-- Nodes and edges are added at the end, and no edge leads to a node that was there before. -/
structure Extends (g g' : Graph) : Prop where
  nodes : ∃ new, g'.nodes = g.nodes ++ new
  edges : ∃ new, g'.edges = g.edges ++ new ∧ ∀ e ∈ new, e.target ∉ g.ids

theorem Extends.refl (g : Graph) : g.Extends g where
  nodes := ⟨[], by simp⟩
  edges := ⟨[], by simp⟩

theorem Extends.ids (h : g.Extends g') : ∃ new, g'.ids = g.ids ++ new := by
  obtain ⟨new, hn⟩ := h.nodes
  exact ⟨new.map (·.id), by rw [Graph.ids, hn, List.map_append, ← Graph.ids]⟩

theorem Extends.trans {g'' : Graph} (h : g.Extends g') (h' : g'.Extends g'') :
    g.Extends g'' where
  nodes := by
    obtain ⟨new, hn⟩ := h.nodes
    obtain ⟨more, hm⟩ := h'.nodes
    exact ⟨new ++ more, by rw [hm, hn, List.append_assoc]⟩
  edges := by
    obtain ⟨new, hn, old⟩ := h.edges
    obtain ⟨more, hm, old'⟩ := h'.edges
    obtain ⟨_, hi⟩ := h.ids
    refine ⟨new ++ more, by rw [hm, hn, List.append_assoc], fun e he => ?_⟩
    rcases List.mem_append.mp he with he | he
    · exact old e he
    · exact fun hid => old' e he (hi ▸ List.mem_append_left _ hid)

theorem Extends.feeders (h : g.Extends g') {id : String} (hid : id ∈ g.ids) :
    g'.feeders id = g.feeders id := by
  obtain ⟨new, hn, old⟩ := h.edges
  have none : new.filter (·.target == id) = [] := by
    refine List.filter_eq_nil_iff.mpr fun e he same => old e he ?_
    rw [beq_iff_eq] at same
    exact same ▸ hid
  simp [Graph.feeders, incoming, hn, none]

/-- What flows into a node is settled once the node is there. -/
theorem Yields.extend {id : String} {f : Inflow} (h : g.Extends g') (hy : g.Yields id f) :
    g'.Yields id f := by
  obtain ⟨new, hn⟩ := h.nodes
  have keep : ∀ {n : Node}, n ∈ g.nodes → n ∈ g'.nodes ∧ g'.feeders n.id = g.feeders n.id := by
    intro n mem
    exact ⟨hn ▸ List.mem_append_left _ mem, h.feeders (List.mem_map_of_mem mem)⟩
  induction hy with
  | nothing mem plain fed => exact .nothing (keep mem).1 plain ((keep mem).2.trans fed)
  | table mem data fed => exact .table (keep mem).1 data ((keep mem).2.trans fed)
  | step mem plain fed _ ih => exact .step (keep mem).1 plain ((keep mem).2.trans fed) ih
  | join mem plain fed _ _ left right =>
    exact .join (keep mem).1 plain ((keep mem).2.trans fed) left right

end Graph

section Rel

variable {α β : Type} {R : α → β → Prop}

theorem rel_none_left {b : Option β} : Option.Rel R none b ↔ b = none := by
  constructor
  · rintro ⟨⟩
    rfl
  · rintro rfl
    exact .none

theorem rel_none_right {a : Option α} : Option.Rel R a none ↔ a = none := by
  constructor
  · rintro ⟨⟩
    rfl
  · rintro rfl
    exact .none

theorem rel_some_left {x : α} {b : Option β} :
    Option.Rel R (some x) b ↔ ∃ y, b = some y ∧ R x y := by
  constructor
  · rintro ⟨h⟩
    exact ⟨_, rfl, h⟩
  · rintro ⟨y, rfl, h⟩
    exact .some h

theorem rel_some_right {a : Option α} {y : β} :
    Option.Rel R a (some y) ↔ ∃ x, a = some x ∧ R x y := by
  constructor
  · rintro ⟨h⟩
    exact ⟨_, rfl, h⟩
  · rintro ⟨x, rfl, h⟩
    exact .some h

end Rel

/-- What a named query hands on to the queries behind it. -/
structure Offer where
  name : String
  columns : List ColumnRef
  inflow : Inflow

/-- The last offer of a name. -/
def Offer.latest? (offers : List Offer) (name : String) : Option Offer :=
  offers.reverse.find? (·.name == name)

theorem Offer.latest?_append (offers : List Offer) (o : Offer) (name : String) :
    latest? (offers ++ [o]) name = if o.name = name then some o else latest? offers name := by
  by_cases h : o.name = name <;> simp [latest?, h]

/-- The step behind a chain. -/
def Inflow.after : Option Inflow → Inflow
  | none => .nothing
  | some f => .step f

theorem Inflow.after_listed (last : Option Inflow) :
    (after last).listed = (last.map listed).getD [] := by
  cases last <;> rfl

theorem Inflow.after_own (last : Option Inflow) : (after last).own = [] := by
  cases last <;> rfl

/-- What an entry reads: the last offer of its name, or else a table, with the columns that are
used. -/
def FromEntry.inflow (ctx : BuildContext) (offers : List Offer) (u : Usage) (e : FromEntry) :
    Inflow :=
  match Offer.latest? offers e.table with
  | some o => o.inflow
  | none => .table ((u.keep e.table e.alias (ctx.columns e.table)).map fun c => ⟨e.table, c.name⟩)

/-- A chain and one more entry: only a join keeps what was there before. -/
def FromEntry.joined (e : FromEntry) (last : Option Inflow) (current : Inflow) : Inflow :=
  match e.join, last with
  | some _, some left => .join left current
  | _, _ => current

namespace Selection

/-- The chain that a FROM clause makes. -/
def chain (ctx : BuildContext) (offers : List Offer) (s : Selection) : Option Inflow :=
  s.entries.foldl
    (fun last e => some (e.joined last (e.inflow ctx offers (Usage.ofSelection s)))) none

/-- The chain behind WHERE. -/
def filtered (s : Selection) (last : Option Inflow) : Option Inflow :=
  if s.condition.isSome then some (Inflow.after last) else last

/-- The chain behind GROUP BY. -/
def aggregated (s : Selection) (last : Option Inflow) : Option Inflow :=
  if s.groupBy.isEmpty then last else some (Inflow.after last)

/-- What flows into the result of a SELECT. -/
def inflow (ctx : BuildContext) (offers : List Offer) (s : Selection) : Inflow :=
  Inflow.after (s.aggregated (s.filtered (s.chain ctx offers)))

/-- The columns that are listed above the result are those of the FROM clause. -/
theorem inflow_listed (ctx : BuildContext) (offers : List Offer) (s : Selection) :
    (s.inflow ctx offers).listed = ((s.chain ctx offers).map Inflow.listed).getD [] := by
  have filtered (last : Option Inflow) :
      ((s.filtered last).map Inflow.listed).getD [] = (last.map Inflow.listed).getD [] := by
    unfold Selection.filtered
    split <;> simp [Inflow.after_listed]
  have aggregated (last : Option Inflow) :
      ((s.aggregated last).map Inflow.listed).getD [] = (last.map Inflow.listed).getD [] := by
    unfold Selection.aggregated
    split <;> simp [Inflow.after_listed]
  rw [inflow, Inflow.after_listed, aggregated, filtered]

/-- Behind the one entry of a FROM clause the listed columns are those of the entry. -/
theorem inflow_listed_of_alone (ctx : BuildContext) (offers : List Offer) {s : Selection}
    {e : FromEntry} (alone : s.entries = [e]) :
    (s.inflow ctx offers).listed = (e.inflow ctx offers (Usage.ofSelection s)).listed := by
  have one (f : Inflow) : e.joined none f = f := by
    unfold FromEntry.joined
    cases e.join <;> rfl
  rw [inflow_listed, chain, alone, List.foldl_cons, List.foldl_nil, one]
  rfl

end Selection

namespace Builder

variable {ctx : BuildContext} {b c : Builder} {parent : Option String} {offers : List Offer}

theorem SameFlow.extends_graph (h : SameFlow b c) : b.graph.Extends c.graph where
  nodes := ⟨[], by simp [graph, h.nodes]⟩
  edges := ⟨[], by simp [graph, h.edges]⟩

theorem Sound.id_fresh (h : Sound b) (parent : Option String) (data : NodeData) :
    (b.addNode parent data).1 ∉ b.graph.ids := by
  have ids : (b.addNode none data).2.graph.ids = b.graph.ids ++ [(b.addNode parent data).1] := by
    simp [Graph.ids, graph]
    rfl
  have sound : Sound (b.addNode none data).2 := h.addNode data (by simp)
  have distinct := sound.nodup_ids
  rw [ids, List.nodup_append] at distinct
  exact fun hid => distinct.2.2 _ hid _ (List.mem_singleton_self _) rfl

theorem Sound.target_mem (h : Sound b) {e : Edge} (he : e ∈ b.edges) : e.target ∈ b.graph.ids := by
  obtain ⟨_, _, _, _, hj⟩ := h.forward e he
  exact (hj.end_ok h).1

/-- A new node with some edges into it: all else stays, and the node is fed by just these. -/
theorem Sound.grow (h : Sound b) (parent : Option String) (data : NodeData) (more : List Edge)
    (hn : c.nodes = (b.addNode parent data).2.nodes) (he : c.edges = b.edges ++ more)
    (ht : ∀ e ∈ more, e.target = (b.addNode parent data).1) :
    b.graph.Extends c.graph ∧
      (⟨(b.addNode parent data).1, data, parent⟩ : Node) ∈ c.graph.nodes ∧
      c.graph.feeders (b.addNode parent data).1 = more.map (·.source) := by
  have fresh := h.id_fresh parent data
  refine ⟨⟨⟨_, hn⟩, more, he, fun e hm => ht e hm ▸ fresh⟩, ?_, ?_⟩
  · rw [graph, hn]
    exact List.mem_append_right _ (List.mem_singleton_self _)
  · have old : b.edges.filter (·.target == (b.addNode parent data).1) = [] := by
      refine List.filter_eq_nil_iff.mpr fun e hm same => fresh ?_
      rw [beq_iff_eq] at same
      exact same ▸ h.target_mem hm
    have new : more.filter (·.target == (b.addNode parent data).1) = more :=
      List.filter_eq_self.mpr fun e hm => by simp [ht e hm]
    simp only [Graph.feeders, Graph.incoming, graph, he, List.filter_append, old, new,
      List.nil_append]

/-- A step at the end of a chain. -/
theorem addFed_yields (h : Sound b) {last : Option String} {flow : Option Inflow}
    (hl : Option.Rel b.graph.Yields last flow) (parent : Option String) (data : NodeData)
    (plain : ∀ id, Node.table? ⟨id, data, parent⟩ = none) (columns : Option (List String)) :
    let c := (b.addNode parent data).2.addEdgeFrom last (b.addNode parent data).1 columns
    b.graph.Extends c.graph ∧ c.graph.Yields (b.addNode parent data).1 (Inflow.after flow) := by
  cases hl with
  | none =>
    obtain ⟨ext, mem, fed⟩ := h.grow parent data [] (c := (b.addNode parent data).2) rfl
      (by simp [addNode]) (by simp)
    exact ⟨ext, .nothing mem (plain _) fed⟩
  | some hy =>
    obtain ⟨ext, mem, fed⟩ := h.grow parent data _
      (c := (b.addNode parent data).2.addEdge _ (b.addNode parent data).1 columns) rfl rfl (by simp)
    exact ⟨ext, .step mem (plain _) fed (hy.extend ext)⟩

theorem addJoin_yields (ctx : BuildContext) (parent : Option String) (h : Sound b)
    {left right : String} {l r : Inflow}
    (hl : b.graph.Yields left l) (hr : b.graph.Yields right r) (marker : JoinMarker) :
    b.graph.Extends (b.addJoin ctx parent marker left right).2.graph ∧
      (b.addJoin ctx parent marker left right).2.graph.Yields
        (b.addJoin ctx parent marker left right).1 (.join l r) := by
  obtain ⟨ext, mem, fed⟩ := h.grow parent _ _
    (c := (b.addJoin ctx parent marker left right).2) rfl
    (by simp only [addJoin, addEdge, addNode, List.append_assoc]; rfl) (by simp [addNode])
  exact ⟨ext, .join mem rfl fed (hl.extend ext) (hr.extend ext)⟩

/-- The names that are bound mean the last offers of these names. -/
def Bound (b : Builder) (offers : List Offer) : Prop :=
  ∀ name, Option.Rel (fun id o => b.graph.Yields id o.inflow) (b.results.lookup name)
    (Offer.latest? offers name)

theorem Bound.extend (h : Bound b offers) (he : b.graph.Extends c.graph)
    (hr : c.results = b.results) : Bound c offers := by
  intro name
  have hn := h name
  rw [hr]
  generalize b.results.lookup name = id, Offer.latest? offers name = o at hn ⊢
  cases hn with
  | none => exact .none
  | some hy => exact .some (hy.extend he)

@[simp] theorem addEdgeFrom_usage (source : Option String) (target : String)
    (columns : Option (List String)) : (b.addEdgeFrom source target columns).usage = b.usage := by
  cases source <;> rfl

@[simp] theorem colorOf_usage (table : String) : (b.colorOf table).2.usage = b.usage := by
  unfold colorOf
  cases b.colors.lookup table <;> rfl

@[simp] theorem colorAlias_usage (shown : Option String) (color : Nat) :
    (b.colorAlias shown color).usage = b.usage := by
  cases shown <;> rfl

theorem readEntry_usage (e : FromEntry) : (b.readEntry ctx parent e).2.usage = b.usage := by
  unfold readEntry
  cases b.results.lookup e.table with
  | some id => cases b.colors.lookup e.table <;> simp
  | none => simp [addTable, addNode]

theorem takeEntry_usage (step : Option String × Builder) (e : FromEntry) :
    (takeEntry ctx parent step e).2.usage = step.2.usage := by
  obtain ⟨last, b⟩ := step
  unfold takeEntry
  cases e.join with
  | none => exact readEntry_usage e
  | some marker =>
    cases last with
    | none => exact readEntry_usage e
    | some left => exact readEntry_usage e

/-- An entry yields the result that it is bound to, or a table with its used columns. -/
theorem readEntry_yields (ctx : BuildContext) (parent : Option String) (h : Sound b)
    (hb : Bound b offers) (e : FromEntry) :
    b.graph.Extends (b.readEntry ctx parent e).2.graph ∧
      (b.readEntry ctx parent e).2.graph.Yields (b.readEntry ctx parent e).1
        (e.inflow ctx offers b.usage) := by
  have bound := hb e.table
  unfold readEntry FromEntry.inflow
  cases hr : b.results.lookup e.table with
  | some id =>
    rw [hr] at bound
    obtain ⟨o, latest, hy⟩ := rel_some_left.mp bound
    rw [latest]
    cases b.colors.lookup e.table with
    | none => exact ⟨.refl _, hy⟩
    | some color =>
      have ext := (colorAlias_sameFlow b e.alias color).extends_graph
      exact ⟨ext, hy.extend ext⟩
  | none =>
    rw [hr] at bound
    rw [rel_none_left.mp bound]
    have same := (colorOf_sameFlow b e.table).trans
      (colorAlias_sameFlow (b.colorOf e.table).2 e.alias (b.colorOf e.table).1)
    have used : ((b.colorOf e.table).2.colorAlias e.alias (b.colorOf e.table).1).usage =
        b.usage := by simp
    obtain ⟨ext, mem, fed⟩ := (h.sameFlow same).grow parent
      (.table ⟨e.table, e.alias, b.usage.keep e.table e.alias (ctx.columns e.table),
        (b.colorOf e.table).1⟩) [] rfl (by simp [addNode]) (by simp)
    have hy := Graph.Yields.table mem rfl fed
    simp only [addTable, used]
    exact ⟨same.extends_graph.trans ext, hy⟩

/-- The state within one SELECT that started at some graph: the end of the chain yields the chain
of the query. -/
structure Carries (parent : Option String) (offers : List Offer) (u : Usage) (start : Graph)
    (step : Option String × Builder) (flow : Option Inflow) : Prop where
  chain : ChainSound parent step
  ext : start.Extends step.2.graph
  usage : step.2.usage = u
  bound : Bound step.2 offers
  last : Option.Rel step.2.graph.Yields step.1 flow

variable {u : Usage} {start : Graph} {step : Option String × Builder} {flow : Option Inflow}

theorem Carries.takeEntry (h : Carries parent offers u start step flow) (e : FromEntry) :
    Carries parent offers u start (Builder.takeEntry ctx parent step e)
      (some (e.joined flow (e.inflow ctx offers u))) := by
  obtain ⟨_, _, _, _, _, grown⟩ := takeEntry_grows ctx parent step.1 step.2 e
  have results := grown.results
  suffices hy : step.2.graph.Extends (Builder.takeEntry ctx parent step e).2.graph ∧
      Option.Rel (Builder.takeEntry ctx parent step e).2.graph.Yields
        (Builder.takeEntry ctx parent step e).1 (some (e.joined flow (e.inflow ctx offers u))) from
    ⟨takeEntry_sound h.chain e, h.ext.trans hy.1, (takeEntry_usage step e).trans h.usage,
      h.bound.extend hy.1 results, hy.2⟩
  obtain ⟨last, b⟩ := step
  obtain ⟨ext, hy⟩ := readEntry_yields ctx parent h.chain.sound h.bound e
  rw [show b.usage = u from h.usage] at hy
  have hlast := h.last
  have sound := (readEntry_sound ctx h.chain e).1.sound
  unfold Builder.takeEntry FromEntry.joined
  cases hj : e.join with
  | none => exact ⟨ext, .some hy⟩
  | some marker =>
    cases hlast with
    | none => exact ⟨ext, .some hy⟩
    | some hleft =>
      obtain ⟨ext', hy'⟩ := addJoin_yields ctx parent sound
        (hleft.extend ext) hy marker
      exact ⟨ext.trans ext', .some hy'⟩

theorem Carries.takeEntries (entries : List FromEntry)
    (h : Carries parent offers u start step flow) :
    Carries parent offers u start (entries.foldl (Builder.takeEntry ctx parent) step)
      (entries.foldl (fun last e => some (e.joined last (e.inflow ctx offers u))) flow) := by
  induction entries generalizing step flow with
  | nil => exact h
  | cons e rest ih => exact ih (h.takeEntry e)

theorem Carries.extend (h : Carries parent offers u start step flow) {data : NodeData}
    (hk : data.kind ≠ .group) (plain : ∀ id, Node.table? ⟨id, data, parent⟩ = none) :
    Carries parent offers u start (step.2.extend parent step.1 data)
      (some (Inflow.after flow)) := by
  obtain ⟨ext, hy⟩ := addFed_yields h.chain.sound h.last parent data plain none
  refine ⟨h.chain.extend hk, h.ext.trans ext, ?_, h.bound.extend ext ?_, .some hy⟩
  · simpa [Builder.extend, addNode] using h.usage
  · simp [Builder.extend]

theorem Carries.filtered (h : Carries parent offers u start step flow) (s : Selection) :
    Carries parent offers u start (Builder.filtered ctx parent s step) (s.filtered flow) := by
  unfold Builder.filtered Selection.filtered
  cases s.condition with
  | none => exact h
  | some c => exact h.extend (by simp [NodeData.kind]) (fun _ => rfl)

theorem Carries.aggregated (h : Carries parent offers u start step flow) (s : Selection) :
    Carries parent offers u start (Builder.aggregated ctx parent s step)
      (s.aggregated flow) := by
  unfold Builder.aggregated Selection.aggregated
  split
  · exact h
  · exact h.extend (by simp [NodeData.kind]) (fun _ => rfl)

theorem takeInner_carries (ctx : BuildContext) (h : ChainSound parent (none, b))
    (hb : Bound b offers) (s : Selection) :
    Carries parent offers (Usage.ofSelection s) b.graph (b.takeInner ctx parent s)
      (s.aggregated (s.filtered (s.chain ctx offers))) := by
  rw [takeInner_eq]
  have start : Carries parent offers (Usage.ofSelection s) b.graph
      (none, { b with usage := Usage.ofSelection s }) none :=
    ⟨h.sameFlow ⟨rfl, rfl, rfl, rfl⟩, .refl _, rfl, hb, .none⟩
  exact ((start.takeEntries s.entries).filtered s).aggregated s

theorem opened_extends (b : Builder) (name : String) : b.graph.Extends (b.opened name).2.graph where
  nodes := ⟨_, rfl⟩
  edges := ⟨[], by simp [opened, graph, addNode]⟩

/-- The node at the end of a named query is bound to its name, and yields what the query reads. -/
theorem takeNamed_yields (ctx : BuildContext) (h : Sound b) (hb : Bound b offers) (name : String)
    (s : Selection) :
    b.graph.Extends (b.takeNamed ctx name s).graph ∧
      ∃ id, (b.takeNamed ctx name s).results = Keyed.assign name id b.results ∧
        (b.takeNamed ctx name s).graph.Yields id (s.inflow ctx offers) := by
  have ext := b.opened_extends name
  have inner := takeInner_carries ctx (opened_sound h name) (hb.extend ext rfl) s
  obtain ⟨_, _, _, _, _, _, _, grown⟩ :=
    takeInner_grows ctx (b.opened name).2 (some (b.opened name).1) s
  have results := grown.results
  obtain ⟨ext', hy⟩ := addFed_yields inner.chain.sound inner.last none
    (.named ⟨name, columnsOf ctx.dialect s, s.condition.isSome, !s.groupBy.isEmpty,
      b.nextColor⟩) (fun _ => rfl) none
  rw [takeNamed_eq]
  refine ⟨ext.trans (inner.ext.trans ext'), _, ?_, hy⟩
  simp only [addEdgeFrom_results, addNode_results, results]
  rfl

/-- The output node yields what the main query reads. -/
theorem takeMain_yields (ctx : BuildContext) (h : Sound b) (hb : Bound b offers) (s : Selection) :
    b.graph.Extends (b.takeMain ctx s).graph ∧
      ∃ id output, (id, output) ∈ (b.takeMain ctx s).graph.outputs ∧
        (b.takeMain ctx s).graph.Yields id (s.inflow ctx offers) := by
  have start : ChainSound none (none, b) := ⟨h, by simp, by simp⟩
  have inner := takeInner_carries ctx start hb s
  obtain ⟨output, _, he⟩ := takeMain_eq ctx b s
  obtain ⟨ext, hy⟩ := addFed_yields inner.chain.sound inner.last none
    (.output output) (fun _ => rfl) (some (output.columns.map (·.name)))
  rw [he]
  refine ⟨inner.ext.trans ext, _, output, ?_, hy⟩
  simp [Graph.outputs, graph, Node.output?, addNode]

theorem takeMain_results (ctx : BuildContext) (b : Builder) (s : Selection) :
    (b.takeMain ctx s).graph.results = b.graph.results := by
  obtain ⟨p, hc, gains⟩ := takeMain_gains ctx b s
  have ends := gains.fits.result
  rw [hc] at ends
  obtain ⟨_, output, hd, _⟩ := ends
  simp [gains.results, Node.result?, hd]

/-- A result in the graph is as an offer of the query says. -/
def Agrees (g : Graph) (x : String × NamedResult) (o : Offer) : Prop :=
  x.2.name = o.name ∧ x.2.columns = o.columns ∧ g.Yields x.1 o.inflow

/-- A builder has taken named queries that make these offers. -/
structure Supplies (b : Builder) (offers : List Offer) : Prop where
  sound : Sound b
  bound : Bound b offers
  results : List.Forall₂ (Agrees b.graph) b.graph.results offers

theorem start_supplies : Supplies {} [] := ⟨start_sound, fun _ => .none, .nil⟩

theorem takeNamed_supplies (h : Supplies b offers) (name : String) (s : Selection) :
    Supplies (b.takeNamed ctx name s)
      (offers ++ [⟨name, columnsOf ctx.dialect s, s.inflow ctx offers⟩]) := by
  obtain ⟨ext, id, hr, hy⟩ := takeNamed_yields ctx h.sound h.bound name s
  refine ⟨takeNamed_sound h.sound name s, fun other => ?_, ?_⟩
  -- The new binding hides an older one of its name, as the new offer comes last.
  · rw [hr, Offer.latest?_append]
    by_cases same : name = other
    · subst same
      simpa using Option.Rel.some hy
    · have old := (h.bound other)
      rw [if_neg same, Keyed.lookup_assign_of_ne id b.results (Ne.symm same)]
      generalize b.results.lookup other = x, Offer.latest? offers other = o at old ⊢
      cases old with
      | none => exact .none
      | some hx => exact .some (hx.extend ext)
  · obtain ⟨p, hc, gains⟩ := takeNamed_gains ctx b name s
    have ends := gains.fits.result
    rw [hc] at ends
    obtain ⟨_, result, hd, hname, hcols, _⟩ := ends
    have same : id = p.result.id := by
      have meant := gains.meaning name
      simpa [Builder.meaning, hr, hc, Call.name?] using meant
    have results : (b.takeNamed ctx name s).graph.results =
        b.graph.results ++ [(p.result.id, result)] := by
      simp [gains.results, Node.result?, hd]
    rw [results]
    refine List.rel_append (h.results.imp fun x o hx => ?_) (.cons ?_ .nil)
    · exact ⟨hx.1, hx.2.1, hx.2.2.extend ext⟩
    · exact ⟨hname, hcols, same ▸ hy⟩

end Builder

/-- What a named query offers behind others. -/
def Binding.offer (ctx : BuildContext) (offers : List Offer) (x : Binding) : Offer :=
  ⟨x.name, Builder.columnsOf ctx.dialect x.body, x.body.inflow ctx offers⟩

namespace Query

variable (ctx : BuildContext) (q : Query)

/-- What the named queries of a query offer, in order. -/
def offers : List Offer := q.bindings.foldl (fun offers x => offers ++ [x.offer ctx offers]) []

theorem offers_map : (q.offers ctx).map (fun o => (o.name, o.columns)) =
    q.bindings.map fun x => (x.name, Builder.columnsOf ctx.dialect x.body) := by
  suffices h : ∀ (bs : List Binding) (offers : List Offer),
      (bs.foldl (fun offers x => offers ++ [x.offer ctx offers]) offers).map
          (fun o => (o.name, o.columns)) =
        offers.map (fun o => (o.name, o.columns))
          ++ bs.map fun x => (x.name, Builder.columnsOf ctx.dialect x.body) from h q.bindings []
  intro bs
  induction bs with
  | nil => simp
  | cons x rest ih =>
    intro offers
    rw [List.foldl_cons, ih]
    simp [Binding.offer]

theorem offers_names : (q.offers ctx).map (·.name) = q.bindings.map (·.name) := by
  have pairs := congrArg (List.map Prod.fst) (q.offers_map ctx)
  simpa only [List.map_map, Function.comp_def] using pairs

/-- The only named query of a name makes the only offer of that name. -/
theorem offer_of_once {x : Binding} {t : String}
    (once : q.bindings.filter (·.name == t) = [x]) :
    ∃ o ∈ q.offers ctx, o.columns = Builder.columnsOf ctx.dialect x.body ∧
      (q.offers ctx).find? (·.name == t) = some o ∧
      Offer.latest? (q.offers ctx) t = some o := by
  have pairs := congrArg (List.filter (·.1 == t)) (q.offers_map ctx)
  simp only [List.filter_map, Function.comp_def, once, List.map_cons, List.map_nil] at pairs
  obtain ⟨o, only, same⟩ := List.map_eq_singleton_iff.mp pairs
  have mem : o ∈ (q.offers ctx).filter (·.name == t) := by simp [only]
  refine ⟨o, (List.mem_filter.mp mem).1, (Prod.mk.inj same).2, ?_, ?_⟩
  · rw [← List.head?_filter, only, List.head?_cons]
  · rw [Offer.latest?, ← List.head?_filter, List.filter_reverse, only]
    rfl

theorem offer_own {o : Offer} (h : o ∈ q.offers ctx) : o.inflow.own = [] := by
  suffices all : ∀ (bs : List Binding) (offers : List Offer), (∀ o ∈ offers, o.inflow.own = []) →
      ∀ o ∈ bs.foldl (fun offers x => offers ++ [x.offer ctx offers]) offers, o.inflow.own = [] from
    all q.bindings [] (by simp) o h
  intro bs
  induction bs with
  | nil => exact fun offers h => h
  | cons x rest ih =>
    intro offers h
    refine ih _ fun o ho => ?_
    rcases List.mem_append.mp ho with old | new
    · exact h o old
    · rw [List.mem_singleton.mp new, Binding.offer, Selection.inflow, Inflow.after_own]

/-- What flows into the output of a query. -/
def inflow : Inflow := q.body.inflow ctx (q.offers ctx)

theorem named_supplies : Builder.Supplies (q.named ctx) (q.offers ctx) := by
  suffices h : ∀ (bs : List Binding) (b : Builder) (offers : List Offer), b.Supplies offers →
      ((bs.map fun x => Builder.Call.named x.name x.body).foldl (Builder.take ctx) b).Supplies
        (bs.foldl (fun offers x => offers ++ [x.offer ctx offers]) offers) from
    h q.bindings {} [] Builder.start_supplies
  intro bs
  induction bs with
  | nil => exact fun b offers h => h
  | cons x rest ih => exact fun b offers h => ih _ _ (Builder.takeNamed_supplies h x.name x.body)

/-- The graph of a query has one output, with the columns of the main query and what it reads. -/
theorem graph_inflow : ∃ id output, (q.graph ctx).outputs = [(id, output)] ∧
    (q.graph ctx).Yields id (q.inflow ctx) := by
  have h := q.named_supplies ctx
  obtain ⟨_, id, output, mem, hy⟩ := Builder.takeMain_yields ctx h.sound h.bound q.body
  obtain ⟨id', output', ho, _⟩ := q.graph_outputs ctx
  rw [graph, takeQuery_eq] at ho ⊢
  rw [ho, List.mem_singleton, Prod.mk.injEq] at mem
  exact ⟨id', output', ho, mem.1 ▸ hy⟩

/-- The results in the graph of a query are what its named queries offer. -/
theorem graph_results :
    List.Forall₂ (Builder.Agrees (q.graph ctx)) (q.graph ctx).results (q.offers ctx) := by
  have h := q.named_supplies ctx
  obtain ⟨ext, _⟩ := Builder.takeMain_yields ctx h.sound h.bound q.body
  rw [graph, takeQuery_eq, Builder.takeMain_results]
  exact h.results.imp fun x o hx => ⟨hx.1, hx.2.1, hx.2.2.extend ext⟩

/-- The node that a name is bound to yields what the last offer of that name says. -/
theorem graph_bound {name node : String} (bound : (q.named ctx).results.lookup name = some node) :
    ∃ o, Offer.latest? (q.offers ctx) name = some o ∧ (q.graph ctx).Yields node o.inflow := by
  have h := q.named_supplies ctx
  obtain ⟨ext, _⟩ := Builder.takeMain_yields ctx h.sound h.bound q.body
  have latest := h.bound name
  rw [bound] at latest
  obtain ⟨o, ho, hy⟩ := rel_some_left.mp latest
  rw [graph, takeQuery_eq]
  exact ⟨o, ho, hy.extend ext⟩

end Query

end QueryFlow
