import QueryFlow.Proofs.Builder.Resolution

/-!
From which tables rows get to the result of a SELECT. An entry that is not joined takes the place of
what stands in front of it, and what stood there leads to nothing any more. So a table reaches the
result exactly when every entry behind it is joined. The main statement says this of every table of
every query; a table with an entry behind it that is only listed does not reach the result.
-/

namespace QueryFlow

open Sql

/-- Rows do not leave what every edge stays in. -/
theorem Graph.stays {g : Graph} {inside : String → Prop}
    (closed : ∀ e ∈ g.edges, inside e.source → inside e.target) {a b : String} (ha : inside a)
    (reach : Relation.TransGen g.Flows a b) : inside b := by
  induction reach with
  | single first =>
    obtain ⟨e, he, rfl, rfl⟩ := first
    exact closed e he ha
  | tail _ next ih =>
    obtain ⟨e, he, rfl, rfl⟩ := next
    exact closed e he ih

namespace Builder

variable {ctx : BuildContext} {d : Dialect} {meaning : String → Option String}
  {parent front : Option String} {parts before after : List Part} {p : Part} {l m : Link}
  {links ahead rest back : List Link} {n : Node}

section Ways

variable {way : String → String → Prop}

/-- What an entry reads leads to the end of the chain behind the entry. -/
theorem Link.Joins.reaches (h : l.Joins d parent front)
    (ways : ∀ w ∈ l.wires front, way w.source w.target) :
    Relation.ReflTransGen way l.input.id l.last := by
  rcases h.cases with alone | ⟨left, j, rfl, hj, _⟩
  · rw [Link.last, alone]
    exact .refl
  · have wire := ways ⟨l.input.id, j.id, l.entry.join.map (·.columns)⟩ (by simp [Link.wires, hj])
    rw [Link.last, hj]
    exact .single wire

/-- A chain of joined entries leads on from what stands in front of it. -/
theorem Linked.reaches {left : String} (h : Linked d meaning parent (some left) links)
    (joined : ∀ l ∈ links, l.entry.join.isSome = true)
    (ways : ∀ w ∈ chainWires (some left) links, way w.source w.target) :
    ∃ last, chainEnd (some left) links = some last ∧ Relation.ReflTransGen way left last := by
  induction links generalizing left with
  | nil => exact ⟨left, rfl, .refl⟩
  | cons l rest ih =>
    cases h with
    | cons _ join others =>
      obtain ⟨here, there⟩ := List.forall_mem_cons.mp joined
      obtain ⟨j, hj⟩ := Option.isSome_iff_exists.mp (join.isSome_iff.mpr here)
      have wire := ways ⟨left, j.id, l.entry.join.map (·.columns)⟩
        (List.mem_append_left _ (by simp [Link.wires, hj]))
      obtain ⟨last, hend, reach⟩ :=
        ih others there fun w hw => ways w (List.mem_append_right _ hw)
      rw [Link.last, hj] at reach
      exact ⟨last, hend, .head wire reach⟩

/-- The end of a chain leads through the steps to the last of them. -/
theorem stepWires_reaches {left : String} {steps : List Node}
    (ways : ∀ w ∈ stepWires (some left) (steps ++ [n]), way w.source w.target) :
    Relation.TransGen way left n.id := by
  induction steps generalizing left with
  | nil => exact .single (ways ⟨left, n.id, n.inputColumns⟩ (by simp [stepWires]))
  | cons s others ih =>
    have wire := ways ⟨left, s.id, s.inputColumns⟩ (by simp [stepWires])
    exact .head wire (ih fun w hw => ways w (by simp [stepWires, hw]))

/-- What an entry reads leads to the result when all entries behind it are joined. -/
theorem Part.Fits.reaches (h : p.Fits ctx meaning)
    (hl : p.links = ahead ++ l :: back) (joined : ∀ m ∈ back, m.entry.join.isSome = true)
    (ways : ∀ w ∈ p.wires, way w.source w.target) :
    Relation.TransGen way l.input.id p.result.id := by
  have linked := h.links
  rw [hl] at linked
  have wires : p.wires = chainWires none ahead ++ (l.wires (chainEnd none ahead) ++
      (chainWires (some l.last) back ++
        stepWires (chainEnd (some l.last) back) (p.steps ++ [p.result]))) := by
    simp [Part.wires, hl, chainWires_append, chainWires, chainEnd]
  rw [wires] at ways
  simp only [List.forall_mem_append] at ways
  obtain ⟨_, own, chain, steps⟩ := ways
  cases linked.split.2 with
  | cons _ join others =>
    obtain ⟨last, hend, onward⟩ := others.reaches joined chain
    rw [hend] at steps
    exact .trans_right ((join.reaches own).trans onward) (stepWires_reaches steps)

end Ways

/-- In front of an entry that is not joined, all edges stay there. -/
theorem Chronicle.stays_in_front (h : Chronicle ctx parts) (hs : parts = before ++ p :: after)
    (hl : p.links = ahead ++ m :: rest) (alone : m.join = none) {e : Edge}
    (he : e ∈ (run ctx (parts.map (·.call))).graph.edges)
    (hsource : e.source ∈ (ahead.flatMap Link.nodes).map (·.id)) :
    e.target ∈ (ahead.flatMap Link.nodes).map (·.id) := by
  have fits := h.fits_at hs
  have hp : p ∈ parts := by simp [hs]
  have linked := fits.links
  rw [hl] at linked
  obtain ⟨n, hn, same⟩ := List.mem_map.mp hsource
  have inner : n ∈ p.inner := by
    rw [Part.inner, hl, List.flatMap_append, List.append_assoc]
    exact List.mem_append_left _ hn
  have there : n ∈ p.nodes := p.inner_sublist.subset inner
  have step := fits.inner_unnamed inner
  have wires : p.wires = chainWires none ahead ++ (chainWires (some m.last) rest ++
      stepWires (chainEnd (some m.last) rest) (p.steps ++ [p.result])) := by
    simp [Part.wires, hl, chainWires_append, chainWires, chainEnd, Link.wires, alone]
  have hw := h.wire_mem hs there he (.inr ⟨step, same.symm⟩)
  rw [wires] at hw
  rcases List.mem_append.mp hw with own | later
  · exact linked.split.1.target_mem own
  · -- The edge would start behind the front, where no node has the same id.
    exfalso
    have free := h.unnamed ⟨p :: after, hs.symm⟩ ((nodes_sublist hp).subset there) step
    have source := (wires_sources (some m.last) rest p.steps p.result).subset
      (List.mem_map_of_mem (f := (·.source)) later)
    have behind : e.source ∈ ((m :: rest).flatMap Link.nodes ++ p.steps).map (·.id) := by
      rw [List.map_append, List.mem_append]
      refine (List.mem_append.mp source).imp_left fun ends => ?_
      refine linked.split.2.mem_ends (same ▸ free) ?_
      simpa [Edge.wire, Link.ends, Link.last, alone] using ends
    have distinct := (h.part_nodup hp).sublist (p.inner_sublist.map _)
    rw [Part.inner, hl, List.flatMap_append, List.append_assoc, List.map_append] at distinct
    exact (List.nodup_append.mp distinct).2.2 _ (List.mem_map_of_mem hn) _ behind same

/-- What stands in front of an entry that is not joined does not reach the result. -/
theorem Chronicle.not_reaches (h : Chronicle ctx parts) (hs : parts = before ++ p :: after)
    (hl : p.links = ahead ++ m :: rest) (alone : m.join = none)
    (hn : n ∈ ahead.flatMap Link.nodes) :
    ¬ Relation.TransGen (run ctx (parts.map (·.call))).graph.Flows n.id p.result.id := by
  intro reach
  have inside := Graph.stays (fun e he => h.stays_in_front hs hl alone he)
    (List.mem_map_of_mem hn) reach
  have inner : p.result.id ∈ p.inner.map (·.id) := by
    rw [Part.inner, hl, List.flatMap_append, List.append_assoc, List.map_append]
    exact List.mem_append_left _ inside
  have distinct := h.part_nodup (p := p) (by simp [hs])
  rw [Part.nodes, List.map_append, List.map_append] at distinct
  exact (List.nodup_append.mp distinct).2.2 _ (List.mem_append_right _ inner) _
    (List.mem_singleton_self _) rfl

end Builder

namespace Query

/-- In every query, rows of a table reach the result of its SELECT exactly when all entries behind
the one that reads the table are joined. -/
theorem table_reaches_result_iff (ctx : BuildContext) (q : Query) :
    ∃ parts, parts.map (·.call) = q.calls ∧ Builder.Chronicle ctx parts ∧
      (q.graph ctx).nodes.filter (·.kind == .table) = parts.flatMap Builder.Part.tables ∧
      ∀ p ∈ parts, p.links.map (·.entry) = p.call.body.entries ∧
        ∀ front l back n, p.links = front ++ l :: back → l.input = .table n →
          (Relation.TransGen (q.graph ctx).Flows n.id p.result.id ↔
            ∀ m ∈ back, m.entry.join.isSome = true) := by
  obtain ⟨parts, hc, h⟩ := Builder.run_chronicle ctx q.calls
  have graph : q.graph ctx = (Builder.run ctx (parts.map (·.call))).graph := by
    rw [Query.graph, takeQuery_run, hc]
  refine ⟨parts, hc, h, graph ▸ h.tables_eq, fun p hp => ?_⟩
  obtain ⟨before, after, hs⟩ := List.append_of_mem hp
  have fits := h.fits_at hs
  refine ⟨fits.entries, fun front l back n hl hi => ?_⟩
  rw [graph]
  constructor
  · intro reach m hm
    by_contra unjoined
    obtain ⟨near, far, rfl⟩ := List.append_of_mem hm
    have hl' : p.links = (front ++ l :: near) ++ m :: far := by simp [hl]
    have alone : m.join = none := by
      obtain ⟨_, join⟩ := (fits.links.forall_mem m (by simp [hl])).2
      rcases join.cases with none | ⟨_, _, _, _, _, _, joined⟩
      · exact none
      · exact absurd joined unjoined
    have hn : n ∈ (front ++ l :: near).flatMap Builder.Link.nodes := by
      simp [Builder.Link.nodes, hi, Builder.Input.node?]
    exact h.not_reaches hs hl' alone hn reach
  · intro joined
    have reach : Relation.TransGen (Builder.run ctx (parts.map (·.call))).graph.Flows l.input.id
        p.result.id :=
      fits.reaches hl joined fun w hw => h.flows_iff.mpr ⟨p, hp, w, hw, rfl, rfl⟩
    rwa [hi] at reach

/-- `SELECT x FROM a, b` -/
def listedTables : Query :=
  .select ⟨[⟨.of (.column [.bare "x"]), none⟩], [⟨"a", none, none⟩, ⟨"b", none, none⟩], none, [],
    [], none⟩

/-- Nothing leads from the table `a` to the output, or to any other result. -/
theorem table_out_of_reach :
    ¬ ∀ (ctx : BuildContext) (q : Query), ∀ n ∈ (q.graph ctx).nodes, n.kind = .table →
      ∃ r ∈ (q.graph ctx).nodes, (r.kind = .output ∨ r.kind = .named) ∧
        Relation.TransGen (q.graph ctx).Flows n.id r.id := by
  intro h
  have there : ⟨"table_0", .table ⟨"a", none, [], 0⟩, none⟩ ∈ (listedTables.graph {}).nodes := by
    decide +kernel
  have edges : (listedTables.graph {}).edges =
      [⟨"e_table_1_output_2", "table_1", "output_2", some ["x"], none, some true⟩] := by
    decide +kernel
  obtain ⟨r, _, _, reach⟩ := h {} listedTables _ there rfl
  obtain ⟨_, ⟨e, he, hsource, _⟩, _⟩ := Relation.TransGen.head'_iff.mp reach
  rw [edges, List.mem_singleton] at he
  subst he
  exact absurd hsource (by decide)

end Query

end QueryFlow
