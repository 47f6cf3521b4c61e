import QueryFlow.Proofs.Builder.Parts

/-!
What a builder adds. Each of its steps adds nodes and edges at the end, and from that it follows
that each call adds one part. The main statement says of every call which part that is: its entries
read what their names mean in front of the call, and only then its own name is bound. Ids of edges,
colors and usage are not told.
-/

namespace QueryFlow

open Sql

namespace Builder

/-- The result that a name is bound to. -/
def meaning (b : Builder) (name : String) : Option String := b.results.lookup name

/-- The edges so far, without their ids. -/
def wires (b : Builder) : List Wire := b.edges.map Edge.wire

/-- These nodes and edges are added at the end, and no name is bound. -/
structure Grows (b c : Builder) (nodes : List Node) (wires : List Wire) : Prop where
  nodes : c.nodes = b.nodes ++ nodes
  wires : c.wires = b.wires ++ wires
  results : c.results = b.results

variable {ctx : BuildContext} {b c d : Builder} {parent : Option String}

theorem SameFlow.grows (h : SameFlow b c) : Grows b c [] [] where
  nodes := by simp [h.nodes]
  wires := by simp [Builder.wires, h.edges]
  results := h.results

theorem Grows.refl (b : Builder) : Grows b b [] [] := SameFlow.grows ⟨rfl, rfl, rfl, rfl⟩

theorem Grows.trans {nodes more : List Node} {wires others : List Wire}
    (h : Grows b c nodes wires) (h' : Grows c d more others) :
    Grows b d (nodes ++ more) (wires ++ others) where
  nodes := by rw [h'.nodes, h.nodes, List.append_assoc]
  wires := by rw [h'.wires, h.wires, List.append_assoc]
  results := h'.results.trans h.results

theorem addNode_grows (b : Builder) (parent : Option String) (data : NodeData) :
    Grows b (b.addNode parent data).2 [⟨(b.addNode parent data).1, data, parent⟩] [] where
  nodes := rfl
  wires := by simp [Builder.wires, addNode]
  results := rfl

theorem addEdge_grows (b : Builder) (source target : String) (columns : Option (List String)) :
    Grows b (b.addEdge source target columns) [] [⟨source, target, columns⟩] where
  nodes := by simp [addEdge]
  wires := by simp [Builder.wires, addEdge, Edge.wire]
  results := rfl

/-- A node at the end of a chain, with an edge from the end before it if there is one. -/
theorem addFed_grows (b : Builder) (parent last : Option String) (data : NodeData)
    (columns : Option (List String)) (id : String) (h : id = (b.addNode parent data).1)
    (hc : columns = Node.inputColumns ⟨id, data, parent⟩) :
    Grows b ((b.addNode parent data).2.addEdgeFrom last id columns) [⟨id, data, parent⟩]
      (stepWires last [⟨id, data, parent⟩]) := by
  subst h hc
  cases last with
  | none => exact addNode_grows b parent data
  | some left => exact (addNode_grows b parent data).trans (addEdge_grows _ left _ _)

theorem addJoin_grows (ctx : BuildContext) (b : Builder) (parent : Option String) (m : JoinMarker)
    (left right : String) :
    Grows b (b.addJoin ctx parent m left right).2
      [⟨(b.addJoin ctx parent m left right).1, .join (m.toJoin ctx.dialect), parent⟩]
      [⟨left, (b.addJoin ctx parent m left right).1, some m.columns⟩,
        ⟨right, (b.addJoin ctx parent m left right).1, some m.columns⟩] :=
  (addNode_grows b parent (.join (m.toJoin ctx.dialect))).trans
    ((addEdge_grows _ left _ (some m.columns)).trans (addEdge_grows _ right _ (some m.columns)))

theorem readEntry_grows (ctx : BuildContext) (b : Builder) (parent : Option String)
    (e : FromEntry) :
    ∃ i : Input, i.Answers b.meaning parent e ∧ (b.readEntry ctx parent e).1 = i.id ∧
      Grows b (b.readEntry ctx parent e).2 i.node?.toList [] := by
  rcases readEntry_cases ctx b parent e with
    ⟨id, c, hr, he, hs⟩ | ⟨hr, c, columns, color, hs, he⟩
  · exact ⟨.result id, hr, by rw [he]; rfl, by rw [he]; exact hs.grows⟩
  · refine ⟨.table ⟨nodeId .table c.counter, .table ⟨e.table, e.alias, columns, color⟩, parent⟩,
      ⟨hr, rfl, _, rfl, rfl⟩, by rw [he]; rfl, ?_⟩
    rw [he]
    exact hs.grows.trans (addNode_grows c parent _)

/-- What an entry reads is joined with the end of the chain, or it is the new end itself. -/
theorem takeEntry_cases (ctx : BuildContext) (parent last : Option String) (b : Builder)
    (e : FromEntry) :
    let read := b.readEntry ctx parent e
    (∃ m left, e.join = some m ∧ last = some left ∧ takeEntry ctx parent (last, b) e =
      (some (read.2.addJoin ctx parent m left read.1).1,
        (read.2.addJoin ctx parent m left read.1).2)) ∨
    ((e.join = none ∨ last = none) ∧
      takeEntry ctx parent (last, b) e = (some read.1, read.2)) := by
  unfold takeEntry
  cases hm : e.join with
  | none => exact .inr ⟨.inl rfl, rfl⟩
  | some m =>
    cases last with
    | none => exact .inr ⟨.inr rfl, rfl⟩
    | some left => exact .inl ⟨m, left, rfl, rfl, rfl⟩

theorem takeEntry_grows (ctx : BuildContext) (parent last : Option String) (b : Builder)
    (e : FromEntry) :
    ∃ l : Link, l.entry = e ∧ l.input.Answers b.meaning parent e ∧
      l.Joins ctx.dialect parent last ∧ (takeEntry ctx parent (last, b) e).1 = some l.last ∧
      Grows b (takeEntry ctx parent (last, b) e).2 l.nodes (l.wires last) := by
  obtain ⟨i, answers, hid, grown⟩ := readEntry_grows ctx b parent e
  rcases takeEntry_cases ctx parent last b e with ⟨m, left, hm, rfl, taken⟩ | ⟨alone, taken⟩
  · rw [hid] at taken
    have joined := grown.trans (addJoin_grows ctx _ parent m left i.id)
    refine ⟨⟨e, i, some ⟨_, .join (m.toJoin ctx.dialect), parent⟩⟩, rfl, answers, ?_,
      by rw [taken]; rfl, ?_⟩
    · simp [Link.Joins, hm]
    · rw [taken]
      simpa [Link.nodes, Link.wires, hm] using joined
  · refine ⟨⟨e, i, none⟩, rfl, answers, ?_, by rw [taken, hid]; rfl, ?_⟩
    · rcases alone with hm | rfl <;> simp [Link.Joins, *]
    · rw [taken]
      cases last <;> simpa [Link.nodes, Link.wires] using grown

theorem Grows.meaning {nodes : List Node} {wires : List Wire} (h : Grows b c nodes wires) :
    c.meaning = b.meaning := by
  funext name
  rw [Builder.meaning, h.results, Builder.meaning]

theorem takeEntries_grows (ctx : BuildContext) (parent : Option String)
    (entries : List FromEntry) (step : Option String × Builder) :
    ∃ links : List Link, links.map (·.entry) = entries ∧
      Linked ctx.dialect step.2.meaning parent step.1 links ∧
      (entries.foldl (takeEntry ctx parent) step).1 = chainEnd step.1 links ∧
      Grows step.2 (entries.foldl (takeEntry ctx parent) step).2 (links.flatMap Link.nodes)
        (chainWires step.1 links) := by
  induction entries generalizing step with
  | nil => exact ⟨[], rfl, .nil, rfl, .refl _⟩
  | cons e rest ih =>
    obtain ⟨l, rfl, answers, joins, hlast, first⟩ := takeEntry_grows ctx parent step.1 step.2 e
    obtain ⟨links, he, linked, hend, others⟩ := ih (takeEntry ctx parent step l.entry)
    rw [first.meaning, hlast] at linked
    rw [hlast] at hend others
    refine ⟨l :: links, by rw [List.map_cons, he], .cons answers joins linked, hend, ?_⟩
    rw [List.flatMap_cons]
    exact first.trans others

/-- WHERE and GROUP BY each add at most one step. -/
theorem extend_grows (b : Builder) (parent last : Option String) (data : NodeData)
    (h : Node.inputColumns ⟨(b.addNode parent data).1, data, parent⟩ = none) :
    ∃ n : Node, n.kind = data.kind ∧ n.parent = parent ∧
      (b.extend parent last data).1 = some n.id ∧
      Grows b (b.extend parent last data).2 [n] (stepWires last [n]) :=
  ⟨_, rfl, rfl, rfl, addFed_grows b parent last data none _ rfl h.symm⟩

theorem filtered_grows (ctx : BuildContext) (parent : Option String) (s : Selection)
    (step : Option String × Builder) :
    ∃ steps : List Node, steps.map Node.kind = (if s.condition.isSome then [.filter] else []) ∧
      (∀ n ∈ steps, n.parent = parent) ∧
      (filtered ctx parent s step).1 = stepEnd step.1 steps ∧
      Grows step.2 (filtered ctx parent s step).2 steps (stepWires step.1 steps) := by
  unfold filtered
  cases s.condition with
  | none => exact ⟨[], rfl, by simp, rfl, .refl _⟩
  | some c =>
    obtain ⟨n, hk, hp, hlast, grown⟩ :=
      extend_grows step.2 parent step.1 (.filter ⟨c.clauseText ctx.dialect⟩) rfl
    exact ⟨[n], by rw [List.map_singleton, hk]; rfl, by simpa using hp, hlast, grown⟩

theorem aggregated_grows (ctx : BuildContext) (parent : Option String) (s : Selection)
    (step : Option String × Builder) :
    ∃ steps : List Node, steps.map Node.kind = (if s.groupBy.isEmpty then [] else [.aggregation]) ∧
      (∀ n ∈ steps, n.parent = parent) ∧
      (aggregated ctx parent s step).1 = stepEnd step.1 steps ∧
      Grows step.2 (aggregated ctx parent s step).2 steps (stepWires step.1 steps) := by
  unfold aggregated
  split
  · exact ⟨[], rfl, by simp, rfl, .refl _⟩
  · obtain ⟨n, hk, hp, hlast, grown⟩ := extend_grows step.2 parent step.1
      (.aggregation ⟨s.groupBy.map (Expr.clauseText ctx.dialect), aggregatesOf ctx.dialect s⟩) rfl
    exact ⟨[n], by rw [List.map_singleton, hk]; rfl, by simpa using hp, hlast, grown⟩

/-- A SELECT adds its links and its steps. -/
theorem takeInner_grows (ctx : BuildContext) (b : Builder) (parent : Option String)
    (s : Selection) :
    ∃ links steps, links.map (·.entry) = s.entries ∧
      Linked ctx.dialect b.meaning parent none links ∧
      steps.map Node.kind = s.stepKinds ∧ (∀ n ∈ steps, n.parent = parent) ∧
      (b.takeInner ctx parent s).1 = stepEnd (chainEnd none links) steps ∧
      Grows b (b.takeInner ctx parent s).2 (links.flatMap Link.nodes ++ steps)
        (chainWires none links ++ stepWires (chainEnd none links) steps) := by
  rw [takeInner_eq]
  let start : Option String × Builder := (none, { b with usage := Usage.ofSelection s })
  have same : SameFlow b start.2 := ⟨rfl, rfl, rfl, rfl⟩
  obtain ⟨links, he, linked, hend, chained⟩ := takeEntries_grows ctx parent s.entries start
  obtain ⟨first, hk, hp, hfirst, narrowed⟩ := filtered_grows ctx parent s
    (s.entries.foldl (takeEntry ctx parent) start)
  obtain ⟨second, hk', hp', hsecond, grouped⟩ := aggregated_grows ctx parent s
    (filtered ctx parent s (s.entries.foldl (takeEntry ctx parent) start))
  rw [hend] at hfirst narrowed
  rw [hfirst] at hsecond grouped
  refine ⟨links, first ++ second, he, linked, by rw [List.map_append, hk, hk']; rfl, ?_, ?_, ?_⟩
  · intro n hn
    exact (List.mem_append.mp hn).elim (hp n) (hp' n)
  · rw [hsecond, stepEnd, stepEnd, stepEnd, List.foldl_append]
  · rw [stepWires_append]
    exact same.grows.trans (chained.trans (narrowed.trans grouped))

theorem opened_grows (b : Builder) (name : String) :
    Grows b (b.opened name).2 [⟨(b.opened name).1, .group ⟨name, b.nextColor⟩, none⟩] [] := by
  let colored : Builder :=
    { b with colors := Keyed.assign name b.nextColor b.colors, nextColor := b.nextColor + 1 }
  have same : SameFlow b colored := ⟨rfl, rfl, rfl, rfl⟩
  exact same.grows.trans (addNode_grows colored none (.group ⟨name, b.nextColor⟩))

/-- From the first builder to the second this part is added, and its name is bound. -/
structure Gains (ctx : BuildContext) (b c : Builder) (p : Part) : Prop where
  fits : p.Fits ctx b.meaning
  nodes : c.nodes = b.nodes ++ p.nodes
  wires : c.wires = b.wires ++ p.wires
  meaning : ∀ name, c.meaning name =
    if p.call.name? = some name then some p.result.id else b.meaning name

theorem takeNamed_gains (ctx : BuildContext) (b : Builder) (name : String) (s : Selection) :
    ∃ p : Part, p.call = .named name s ∧ Gains ctx b (b.takeNamed ctx name s) p := by
  let frame : Node := ⟨(b.opened name).1, .group ⟨name, b.nextColor⟩, none⟩
  have opened : Grows b (b.opened name).2 [frame] [] := b.opened_grows name
  obtain ⟨links, steps, he, linked, hk, hp, hlast, inner⟩ :=
    takeInner_grows ctx (b.opened name).2 (some frame.id) s
  rw [opened.meaning] at linked
  rw [takeNamed_eq]
  generalize (b.opened name).2.takeInner ctx (some (b.opened name).1) s = before at *
  let r : NamedResult :=
    ⟨name, columnsOf ctx.dialect s, s.condition.isSome, !s.groupBy.isEmpty, b.nextColor⟩
  let result : Node := ⟨(before.2.addNode none (.named r)).1, .named r, none⟩
  have closed := addFed_grows before.2 none before.1 (.named r) none result.id rfl rfl
  rw [hlast] at closed
  have whole := opened.trans (inner.trans closed)
  refine ⟨⟨.named name s, some frame, links, steps, result⟩, rfl,
    ⟨⟨rfl, _, rfl, rfl⟩, he, linked, hk, hp, rfl, r, rfl, rfl, rfl, rfl, rfl⟩, ?_, ?_, ?_⟩
  · simpa [hlast, Part.nodes, Part.inner] using whole.nodes
  · simpa [hlast, Part.wires, stepWires_append, Builder.wires] using whole.wires
  · intro other
    have kept : before.2.results = b.results := inner.results.trans opened.results
    by_cases ho : other = name
    · simp [Builder.meaning, Call.name?, ho, result, r]
    · simp [Builder.meaning, Call.name?, Ne.symm ho, Keyed.lookup_assign_of_ne _ _ ho, kept]

theorem takeMain_gains (ctx : BuildContext) (b : Builder) (s : Selection) :
    ∃ p : Part, p.call = .main s ∧ Gains ctx b (b.takeMain ctx s) p := by
  obtain ⟨links, steps, he, linked, hk, hp, hlast, inner⟩ := takeInner_grows ctx b none s
  obtain ⟨output, hc, taken⟩ := takeMain_eq ctx b s
  rw [taken]
  generalize b.takeInner ctx none s = before at *
  let result : Node := ⟨(before.2.addNode none (.output output)).1, .output output, none⟩
  have closed := addFed_grows before.2 none before.1 (.output output)
    (some (output.columns.map (·.name))) result.id rfl rfl
  rw [hlast] at closed
  have whole := inner.trans closed
  refine ⟨⟨.main s, none, links, steps, result⟩, rfl,
    ⟨trivial, he, linked, hk, hp, rfl, output, rfl, hc⟩, ?_, ?_, ?_⟩
  · simpa [hlast, Part.nodes, Part.inner] using whole.nodes
  · simpa [hlast, Part.wires, stepWires_append, Builder.wires] using whole.wires
  · intro name
    simp [Builder.meaning, Call.name?, inner.results]

/-- Every call adds one part. -/
theorem take_gains (ctx : BuildContext) (b : Builder) (call : Call) :
    ∃ p : Part, p.call = call ∧ Gains ctx b (take ctx b call) p := by
  cases call with
  | named name s => exact takeNamed_gains ctx b name s
  | main s => exact takeMain_gains ctx b s

end Builder

end QueryFlow
