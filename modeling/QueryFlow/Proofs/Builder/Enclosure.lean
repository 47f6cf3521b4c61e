import QueryFlow.Proofs.Builder.Degrees

/-!
Named queries keep to themselves. The nodes of the body stand together between the frame and the
result, and they are the ones that belong to the frame. Rows come in from results in front, and they
leave only for the query's own result, along one edge at most. The main statement says this of each
named query of every run, and that the nodes of main queries belong to no frame.
-/

namespace QueryFlow

namespace Graph

/-- The block of a named query, between its frame and its result. -/
structure Encloses (g : Graph) (front : List Node) (frame : Node) (block : List Node)
    (result : Node) (r : NamedResult) : Prop where
  together : ∃ back, g.nodes = front ++ frame :: (block ++ result :: back)
  children : g.childrenOf frame.id = block
  inner : ∀ n ∈ block, n.kind ∈ [NodeKind.table, .join, .filter, .aggregation]
  entering : ∀ e ∈ g.edges, e.target ∈ block.map (·.id) →
    e.source ∈ block.map (·.id) ∨ ∃ n ∈ front, n.kind = .named ∧ n.id = e.source
  leaving : ∀ e ∈ g.edges, e.source ∈ block.map (·.id) →
    e.target ∈ block.map (·.id) ∨ e.target = result.id
  once : ((g.incoming result.id).filter fun e => (block.map (·.id)).contains e.source).length ≤ 1
  narrowed : r.hasWhere = true ↔ ∃ n ∈ block, n.kind = .filter
  grouped : r.hasGroupBy = true ↔ ∃ n ∈ block, n.kind = .aggregation

end Graph

namespace Builder

variable {ctx : BuildContext} {meaning : String → Option String} {parts before after : List Part}
  {p : Part} {n frame : Node} {name : String} {body : Selection}

namespace Part.Fits

/-- Only the nodes inside of a part have a parent. -/
theorem parent_cases (h : p.Fits ctx meaning) (hn : n ∈ p.nodes) :
    n.parent = none ∨ n ∈ p.inner ∧ n.parent = p.parent := by
  rcases Part.mem_nodes.mp hn with hn | hn | rfl
  · have opens := h.frame
    rw [Option.mem_def.mp hn] at opens
    exact .inl opens.of_some.2
  · exact .inr ⟨hn, (h.inner_kind n hn).2⟩
  · exact .inl h.result.kind.2

/-- A filter or an aggregation is among the nodes just when the body has such a step. -/
theorem has_step_iff (h : p.Fits ctx meaning) {k : NodeKind} (hk : k = .filter ∨ k = .aggregation) :
    (∃ n ∈ p.inner, n.kind = k) ↔ k ∈ p.call.body.stepKinds := by
  rw [← h.steps, List.mem_map]
  constructor
  · rintro ⟨n, hn, rfl⟩
    refine ⟨n, ?_, rfl⟩
    have place := h.mem_of_kind (Part.mem_nodes.mpr (.inr (.inl hn)))
    rcases hk with hk | hk <;> simpa [hk] using place
  · rintro ⟨n, hn, rfl⟩
    exact ⟨n, Part.mem_inner.mpr (.inr (.inr hn)), rfl⟩

/-- A named query has a frame of its name. -/
theorem framed (h : p.Fits ctx meaning) (hc : p.call = .named name body) :
    ∃ frame group, p.frame = some frame ∧ frame.data = .group group ∧ group.name = name := by
  have opens := h.frame
  rw [hc] at opens
  cases hf : p.frame with
  | none =>
    rw [hf] at opens
    exact opens.elim
  | some frame =>
    rw [hf] at opens
    obtain ⟨_, group, hg, named⟩ := opens
    exact ⟨frame, group, rfl, hg, named⟩

/-- The result of a named query tells the steps of its body. -/
theorem tells_steps (h : p.Fits ctx meaning) (hc : p.call = .named name body) :
    ∃ r, p.result.data = .named r ∧ r.name = name ∧
      (r.hasWhere = true ↔ ∃ n ∈ p.inner, n.kind = .filter) ∧
      (r.hasGroupBy = true ↔ ∃ n ∈ p.inner, n.kind = .aggregation) := by
  have ends := h.result
  rw [hc] at ends
  obtain ⟨_, r, hr, named, _, narrowed, grouped⟩ := ends
  refine ⟨r, hr, named, ?_, ?_⟩
  · rw [narrowed, h.has_step_iff (.inl rfl), Selection.mem_stepKinds, hc]
    simp [Call.body]
  · rw [grouped, h.has_step_iff (.inr rfl), Selection.mem_stepKinds, hc]
    simp [Call.body]

end Part.Fits

namespace Chronicle

/-- The nodes that belong to a frame are those inside of its part. -/
theorem childrenOf_frame (h : Chronicle ctx parts) (hs : parts = before ++ p :: after)
    (hf : p.frame = some frame) :
    (run ctx (parts.map (·.call))).graph.childrenOf frame.id = p.inner := by
  have fits := h.fits_at hs
  have mine : p.parent = some frame.id := by rw [Part.parent, hf, Option.map_some]
  have others (qs : List Part) (hq : ∀ q ∈ qs, q ∈ before ∨ q ∈ after) :
      (qs.flatMap Part.nodes).filter (·.parent == some frame.id) = [] := by
    refine List.filter_eq_nil_iff.mpr fun n hn belongs => ?_
    obtain ⟨q, mem, hn⟩ := List.mem_flatMap.mp hn
    have there : q ∈ parts := by
      rw [hs, List.mem_append, List.mem_cons]
      exact (hq q mem).imp_right .inr
    obtain ⟨_, _, theirs⟩ := h.fits_of_mem there
    rcases theirs.parent_cases hn with free | ⟨_, hp⟩
    · simp [free] at belongs
    · rw [hp, beq_iff_eq] at belongs
      obtain ⟨f, hqf, same⟩ := Option.map_eq_some_iff.mp belongs
      exact h.id_of_other hs (Part.mem_nodes.mpr (.inl hf)) (hq q mem)
        (Part.mem_nodes.mpr (.inl hqf)) same
  have own : p.nodes.filter (·.parent == some frame.id) = p.inner := by
    have opens := fits.frame
    rw [hf] at opens
    have block : p.inner.filter (·.parent == some frame.id) = p.inner :=
      List.filter_eq_self.mpr fun n hn => by
        rw [(fits.inner_kind n hn).2, mine, beq_self_eq_true]
    simp [Part.nodes, hf, block, opens.of_some.2, fits.result.kind.2]
  rw [Graph.childrenOf, h.graph_nodes, hs, List.flatMap_append, List.flatMap_cons,
    List.filter_append, List.filter_append, own, others before fun _ => .inl,
    others after fun _ => .inr, List.nil_append, List.append_nil]

/-- An edge into the inside of a part starts there or at a result in front. -/
theorem source_of_inner (h : Chronicle ctx parts) (hs : parts = before ++ p :: after) {e : Edge}
    (he : e ∈ (run ctx (parts.map (·.call))).graph.edges) (ht : e.target ∈ p.inner.map (·.id)) :
    e.source ∈ p.inner.map (·.id) ∨
      ∃ n ∈ before.flatMap Part.nodes, n.kind = .named ∧ n.id = e.source := by
  obtain ⟨n, hn, same⟩ := List.mem_map.mp ht
  have hw := h.wire_mem hs (Part.mem_nodes.mpr (.inr (.inl hn))) he (.inl same.symm)
  refine ((h.fits_at hs).source_mem hw).imp_right fun ⟨name, meant⟩ => ?_
  exact h.result_of_latest? ⟨p :: after, hs.symm⟩ meant

/-- An edge out of the inside of a part stays there or leads to the result of the part. -/
theorem target_of_inner (h : Chronicle ctx parts) (hs : parts = before ++ p :: after) {e : Edge}
    (he : e ∈ (run ctx (parts.map (·.call))).graph.edges) (ho : e.source ∈ p.inner.map (·.id)) :
    e.target ∈ p.inner.map (·.id) ∨ e.target = p.result.id := by
  obtain ⟨n, hn, same⟩ := List.mem_map.mp ho
  have step := (h.fits_at hs).inner_unnamed hn
  have hw := h.wire_mem hs (Part.mem_nodes.mpr (.inr (.inl hn))) he (.inr ⟨step, same.symm⟩)
  exact (h.fits_at hs).target_mem hw

/-- At most one edge leads from the inside of a part to its result. -/
theorem incoming_result (h : Chronicle ctx parts) (hp : p ∈ parts) (ids : List String) :
    (((run ctx (parts.map (·.call))).graph.incoming p.result.id).filter
      fun e => ids.contains e.source).length ≤ 1 := by
  have there : p.result ∈ (run ctx (parts.map (·.call))).graph.nodes := by
    rw [h.graph_nodes]
    exact List.mem_flatMap.mpr ⟨p, hp, Part.mem_nodes.mpr (.inr (.inr rfl))⟩
  obtain ⟨fed, least, count⟩ := h.incoming_length there
  obtain ⟨_, _, fits⟩ := h.fits_of_mem hp
  have result : p.result.kind ≠ .join := by
    rcases fits.result.kind.1 with hk | hk <;> simp [hk]
  rw [if_neg result] at count
  have one : fed ≤ 1 := Nat.le_trans least (by split <;> omega)
  have some_of_all := List.length_filter_le (fun e : Edge => ids.contains e.source)
    ((run ctx (parts.map (·.call))).graph.incoming p.result.id)
  omega

end Chronicle

/-- In every run each named query encloses its body, and no other node belongs to a frame. -/
theorem named_queries_enclosed (ctx : BuildContext) (calls : List Call) :
    ∃ parts, parts.map (·.call) = calls ∧ Chronicle ctx parts ∧
      (∀ before p after name body, parts = before ++ p :: after → p.call = .named name body →
        ∃ frame group r, p.frame = some frame ∧ frame.data = .group group ∧ group.name = name ∧
          p.result.data = .named r ∧ r.name = name ∧
          (run ctx calls).graph.Encloses (before.flatMap Part.nodes) frame p.inner p.result r) ∧
      ∀ n ∈ (run ctx calls).graph.nodes, n.parent = none ∨
        ∃ p ∈ parts, ∃ frame, p.frame = some frame ∧ n ∈ p.inner ∧ n.parent = some frame.id := by
  obtain ⟨parts, rfl, h⟩ := run_chronicle ctx calls
  refine ⟨parts, rfl, h, ?_, ?_⟩
  · intro before p after name body hs hc
    have fits := h.fits_at hs
    obtain ⟨frame, group, hf, hg, named⟩ := fits.framed hc
    obtain ⟨r, hr, same, narrowed, grouped⟩ := fits.tells_steps hc
    refine ⟨frame, group, r, hf, hg, named, hr, same, ?_⟩
    exact
      { together := ⟨after.flatMap Part.nodes, by rw [h.graph_nodes, hs]; simp [Part.nodes, hf]⟩
        children := h.childrenOf_frame hs hf
        inner := fun n hn => by
          have inner := (fits.inner_kind n hn).1
          cases hk : n.kind <;> simp_all [NodeKind.isInner]
        entering := fun e he => h.source_of_inner hs he
        leaving := fun e he => h.target_of_inner hs he
        once := h.incoming_result (by simp [hs]) _
        narrowed := narrowed
        grouped := grouped }
  · intro n hn
    obtain ⟨before, p, after, hs, hn⟩ := h.part_of_mem hn
    rcases (h.fits_at hs).parent_cases hn with free | ⟨inside, hp⟩
    · exact .inl free
    · cases hf : p.frame with
      | none => exact .inl (by rw [hp, Part.parent, hf, Option.map_none])
      | some frame =>
        exact .inr ⟨p, by simp [hs], frame, hf, inside,
          by rw [hp, Part.parent, hf, Option.map_some]⟩

end Builder

end QueryFlow
