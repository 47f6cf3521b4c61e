import QueryFlow.Proofs.Builder.Chronicle

/-!
How many edges a node has. Two edges lead into a join, and every other node is fed by at most one.
Every node but the result of a named query hands its rows on at most once, since each end of a chain
is used up by the next step. The main statement says this of every run. That a node is fed at all,
or hands on its rows at all, is not asserted.
-/

namespace QueryFlow

namespace Graph

/-- The number of edges at nodes of each kind. -/
structure Linear (g : Graph) : Prop where
  joined : ∀ n ∈ g.nodes, n.kind = .join → (g.incoming n.id).length = 2
  fed : ∀ n ∈ g.nodes, n.kind ∈ [NodeKind.filter, .aggregation, .named, .output] →
    (g.incoming n.id).length ≤ 1
  first : ∀ n ∈ g.nodes, n.kind ∈ [NodeKind.table, .group] → g.incoming n.id = []
  last : ∀ n ∈ g.nodes, n.kind ∈ [NodeKind.output, .group] → g.outgoing n.id = []
  once : ∀ n ∈ g.nodes, n.kind ≠ .named → (g.outgoing n.id).length ≤ 1

theorem incoming_length (g : Graph) (id : String) :
    (g.incoming id).length = ((g.edges.map Edge.wire).map (·.target)).count id := by
  rw [incoming, ← List.countP_eq_length_filter, List.count, List.countP_map, List.countP_map]
  rfl

theorem outgoing_length (g : Graph) (id : String) :
    (g.outgoing id).length = ((g.edges.map Edge.wire).map (·.source)).count id := by
  rw [outgoing, ← List.countP_eq_length_filter, List.count, List.countP_map, List.countP_map]
  rfl

end Graph

namespace Builder

variable {ctx : BuildContext} {meaning : String → Option String} {parts before after : List Part}
  {p : Part} {n : Node}

/-- A join is the target of two edges, and a step or a result of at most one. -/
theorem Part.Fits.count_targets (h : p.Fits ctx meaning) (id : String) :
    ∃ fed ≤ ((p.steps ++ [p.result]).map (·.id)).count id,
      (p.wires.map (·.target)).count id = 2 * (p.joins.map (·.id)).count id + fed := by
  refine ⟨_, (stepWires_targets (chainEnd none p.links) (p.steps ++ [p.result])).count_le id, ?_⟩
  rw [Part.wires, List.map_append, List.count_append, h.links.count_targets, Part.joins]

/-- An id that no name means is the source of no more edges than it has nodes inside. -/
theorem Part.Fits.count_sources (h : p.Fits ctx meaning) {id : String}
    (free : ∀ name, meaning name ≠ some id) :
    (p.wires.map (·.source)).count id ≤ (p.inner.map (·.id)).count id := by
  have sources := p.wires_sources.count_le id
  rwa [List.count_append, h.links.count_ends free, ← List.count_append, ← List.map_append]
    at sources

theorem Part.joins_sublist (p : Part) : p.joins.Sublist p.nodes := by
  have joins : p.joins.Sublist (p.links.flatMap Link.nodes) :=
    List.Sublist.flatMap_right p.links fun l _ => List.sublist_append_right _ _
  exact (joins.trans (List.sublist_append_left _ p.steps)).trans p.inner_sublist

theorem Part.ends_sublist (p : Part) : (p.steps ++ [p.result]).Sublist p.nodes :=
  ((List.sublist_append_right _ p.steps).trans
    (List.sublist_append_right p.frame.toList _)).append (List.Sublist.refl [p.result])

/-- Where no other part has an edge at an id, the edges there are those of one part. -/
theorem count_wires_of_other (f : Wire → String) {id : String}
    (other : ∀ q, q ∈ before ∨ q ∈ after → ∀ w ∈ q.wires, f w ≠ id) :
    (((before ++ p :: after).flatMap Part.wires).map f).count id = (p.wires.map f).count id := by
  have none (qs : List Part) (hq : ∀ q ∈ qs, q ∈ before ∨ q ∈ after) :
      ((qs.flatMap Part.wires).map f).count id = 0 := by
    refine List.count_eq_zero.mpr fun here => ?_
    obtain ⟨w, hw, same⟩ := List.mem_map.mp here
    obtain ⟨q, mem, hw⟩ := List.mem_flatMap.mp hw
    exact other q (hq q mem) w hw same
  rw [List.flatMap_append, List.flatMap_cons, List.map_append, List.map_append, List.count_append,
    List.count_append, none before fun _ => .inl, none after fun _ => .inr, Nat.zero_add,
    Nat.add_zero]

namespace Part.Fits

theorem mem_joins_iff (h : p.Fits ctx meaning) (hn : n ∈ p.nodes) :
    n ∈ p.joins ↔ n.kind = .join := by
  refine ⟨fun hj => (h.joins_kind n hj).1, fun hk => ?_⟩
  simpa [hk] using h.mem_of_kind hn

theorem mem_inner_iff (h : p.Fits ctx meaning) (hn : n ∈ p.nodes) :
    n ∈ p.inner ↔ n.kind.isInner = true := by
  refine ⟨fun hi => (h.inner_kind n hi).1, fun hk => ?_⟩
  have place := h.mem_of_kind hn
  rw [Part.mem_inner]
  cases hkind : n.kind <;> simp_all [NodeKind.isInner]

theorem mem_ends_iff (h : p.Fits ctx meaning) (hn : n ∈ p.nodes) :
    n ∈ p.steps ++ [p.result] ↔ n.kind ∈ [NodeKind.filter, .aggregation, .named, .output] := by
  rw [List.mem_append, List.mem_singleton]
  constructor
  · rintro (hs | rfl)
    · rcases h.steps_kind n hs with hk | hk <;> simp [hk]
    · rcases h.result.kind.1 with hk | hk <;> simp [hk]
  · intro hk
    have place := h.mem_of_kind hn
    cases hkind : n.kind <;> simp_all

end Part.Fits

namespace Chronicle

/-- Ids are distinct, so the id of a node stands once among nodes that have it, and else never. -/
theorem count_id (h : Chronicle ctx parts) (hp : p ∈ parts) (hn : n ∈ p.nodes) {group : List Node}
    (sub : group.Sublist p.nodes) : (group.map (·.id)).count n.id = if n ∈ group then 1 else 0 := by
  have whole := (nodes_sublist hp).subset
  split
  case isTrue mem =>
    exact List.count_eq_one_of_mem ((h.part_nodup hp).sublist (sub.map _))
      (List.mem_map_of_mem mem)
  case isFalse away =>
    refine List.count_eq_zero.mpr fun here => ?_
    obtain ⟨m, hm, same⟩ := List.mem_map.mp here
    exact away (h.eq_of_id (whole (sub.subset hm)) (whole hn) same ▸ hm)

/-- Edges lead into a node only in its own part, and there as its kind says. -/
theorem incoming_length (h : Chronicle ctx parts)
    (hn : n ∈ (run ctx (parts.map (·.call))).graph.nodes) :
    ∃ fed ≤ if n.kind ∈ [NodeKind.filter, .aggregation, .named, .output] then 1 else 0,
      ((run ctx (parts.map (·.call))).graph.incoming n.id).length =
        2 * (if n.kind = .join then 1 else 0) + fed := by
  obtain ⟨before, p, after, hs, hn⟩ := h.part_of_mem hn
  have hp : p ∈ parts := by simp [hs]
  have fits := h.fits_at hs
  obtain ⟨fed, least, count⟩ := fits.count_targets n.id
  rw [h.count_id hp hn p.ends_sublist] at least
  rw [h.count_id hp hn p.joins_sublist] at count
  simp only [fits.mem_ends_iff hn] at least
  simp only [fits.mem_joins_iff hn] at count
  refine ⟨fed, least, ?_⟩
  rw [Graph.incoming_length, h.graph_wires, ← count, hs]
  exact count_wires_of_other (·.target) fun q hq w hw => (h.wire_of_other hs hn hq hw).1

/-- Edges lead out of a node only in its own part, and only if it is inside, unless it is the result
of a named query. -/
theorem outgoing_length_le (h : Chronicle ctx parts)
    (hn : n ∈ (run ctx (parts.map (·.call))).graph.nodes) (hk : n.kind ≠ .named) :
    ((run ctx (parts.map (·.call))).graph.outgoing n.id).length ≤
      if n.kind.isInner = true then 1 else 0 := by
  obtain ⟨before, p, after, hs, hn⟩ := h.part_of_mem hn
  have hp : p ∈ parts := by simp [hs]
  have fits := h.fits_at hs
  have free := h.unnamed ⟨p :: after, hs.symm⟩ (List.mem_flatMap.mpr ⟨p, hp, hn⟩) hk
  have sources := fits.count_sources free
  rw [h.count_id hp hn p.inner_sublist] at sources
  simp only [fits.mem_inner_iff hn] at sources
  rw [Graph.outgoing_length, h.graph_wires, hs, count_wires_of_other (·.source)]
  · exact sources
  · exact fun q hq w hw => (h.wire_of_other hs hn hq hw).2 hk

end Chronicle

/-- In every run two edges lead into each join and at most one into each other node, and at most one
leads out of each node but the results of named queries. -/
theorem run_linear (ctx : BuildContext) (calls : List Call) : (run ctx calls).graph.Linear := by
  obtain ⟨parts, rfl, h⟩ := run_chronicle ctx calls
  constructor <;> intro n hn hk
  case joined =>
    obtain ⟨fed, least, count⟩ := h.incoming_length hn
    simp only [hk, List.mem_cons, List.not_mem_nil, reduceCtorEq, or_false, if_false] at least
    simp only [hk, if_true] at count
    omega
  case fed =>
    obtain ⟨fed, least, count⟩ := h.incoming_length hn
    have other : n.kind ≠ .join := fun hj => by simp [hj] at hk
    rw [if_pos hk] at least
    rw [if_neg other] at count
    omega
  case first =>
    obtain ⟨fed, least, count⟩ := h.incoming_length hn
    have other : n.kind ≠ .join := fun hj => by simp [hj] at hk
    have unfed : n.kind ∉ [NodeKind.filter, .aggregation, .named, .output] := by
      cases hkind : n.kind <;> simp_all
    rw [if_neg unfed] at least
    rw [if_neg other] at count
    exact List.eq_nil_of_length_eq_zero (by omega)
  case last =>
    have least := h.outgoing_length_le hn fun hr => by simp [hr] at hk
    have outside : n.kind.isInner = false := by
      cases hkind : n.kind <;> simp_all [NodeKind.isInner]
    rw [outside] at least
    exact List.eq_nil_of_length_eq_zero (Nat.le_zero.mp least)
  case once =>
    have least := h.outgoing_length_le hn hk
    split at least <;> omega

end Builder

end QueryFlow
