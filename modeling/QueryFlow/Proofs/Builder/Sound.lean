import QueryFlow.Proofs.Builder.Ids
import QueryFlow.Proofs.Builder.Run
import QueryFlow.Proofs.Graph.Integrity
import QueryFlow.Proofs.Graph.Order
import Mathlib.Data.List.Nodup

/-!
The state that every run of a builder keeps: ids are kinds and places, parents are groups, edges
lead forward between nodes that are no groups, and names are bound to results. A chain within
one SELECT keeps in addition that its last node is there and that its parent is a group. From
this follow the rules of flow graphs and the order of the nodes along the edges.
-/

namespace QueryFlow.Builder

variable {ctx : BuildContext} {b c : Builder} {parent : Option String}

/-- A node that edges may end at has this place and this id. -/
def Stands (nodes : List Node) (i : Nat) (id : String) : Prop :=
  ∃ n, nodes[i]? = some n ∧ n.id = id ∧ n.isGroup = false

def HasGroup (nodes : List Node) (id : String) : Prop :=
  ∃ n ∈ nodes, n.id = id ∧ n.isGroup = true

/-- The result of a query of this name has this id. -/
def HasResult (nodes : List Node) (name id : String) : Prop :=
  ∃ n ∈ nodes, n.id = id ∧ ∃ r, n.data = .named r ∧ r.name = name

theorem Stands.lt {nodes : List Node} {i : Nat} {id : String} (h : Stands nodes i id) :
    i < nodes.length := by
  obtain ⟨n, hn, _⟩ := h
  exact (List.getElem?_eq_some_iff.mp hn).1

theorem Stands.append {nodes : List Node} {i : Nat} {id : String} (h : Stands nodes i id)
    (more : List Node) : Stands (nodes ++ more) i id := by
  have hi := h.lt
  obtain ⟨n, hn, hid, hk⟩ := h
  exact ⟨n, by rw [List.getElem?_append_left hi, hn], hid, hk⟩

theorem stands_last (nodes : List Node) {n : Node} (hk : n.isGroup = false) :
    Stands (nodes ++ [n]) nodes.length n.id :=
  ⟨n, List.getElem?_concat_length, rfl, hk⟩

theorem HasGroup.append {nodes : List Node} {id : String} (h : HasGroup nodes id)
    (more : List Node) : HasGroup (nodes ++ more) id := by
  obtain ⟨n, hn, hid, hk⟩ := h
  exact ⟨n, List.mem_append_left more hn, hid, hk⟩

theorem HasResult.append {nodes : List Node} {name id : String} (h : HasResult nodes name id)
    (more : List Node) : HasResult (nodes ++ more) name id := by
  obtain ⟨n, hn, hid, hr⟩ := h
  exact ⟨n, List.mem_append_left more hn, hid, hr⟩

theorem HasResult.stands {nodes : List Node} {name id : String} (h : HasResult nodes name id) :
    ∃ i, Stands nodes i id := by
  obtain ⟨n, hn, hid, r, hr, _⟩ := h
  obtain ⟨i, hi⟩ := List.mem_iff_getElem?.mp hn
  exact ⟨i, n, hi, hid, by simp [Node.isGroup, Node.kind, NodeData.kind, hr]⟩

/-- What every run of a builder keeps. -/
structure Sound (b : Builder) : Prop where
  counted : b.counter = b.nodes.length
  numbered : ∀ i n, b.nodes[i]? = some n → n.id = nodeId n.kind i
  grouped : ∀ n ∈ b.nodes, ∀ p, n.parent = some p → HasGroup b.nodes p
  forward : ∀ e ∈ b.edges, ∃ i j, i < j ∧ Stands b.nodes i e.source ∧ Stands b.nodes j e.target
  bound : ∀ name id, b.results.lookup name = some id → HasResult b.nodes name id

theorem start_sound : Sound {} where
  counted := rfl
  numbered := by simp
  grouped := by simp
  forward := by simp
  bound := by simp

theorem Sound.sameFlow (h : Sound b) (hs : SameFlow b c) : Sound c where
  counted := by rw [hs.counter, hs.nodes, h.counted]
  numbered := by rw [hs.nodes]; exact h.numbered
  grouped := by rw [hs.nodes]; exact h.grouped
  forward := by rw [hs.nodes, hs.edges]; exact h.forward
  bound := by rw [hs.nodes, hs.results]; exact h.bound

theorem Sound.addNode (h : Sound b) (data : NodeData)
    (hp : ∀ p, parent = some p → HasGroup b.nodes p) : Sound (b.addNode parent data).2 where
  counted := by simp [Builder.addNode, h.counted]
  numbered := by
    intro i n hn
    rw [addNode_nodes, h.counted] at hn
    by_cases hi : i < b.nodes.length
    · rw [List.getElem?_append_left hi] at hn
      exact h.numbered i n hn
    · obtain ⟨hlt, hn⟩ := List.getElem?_eq_some_iff.mp hn
      have hlast : i = b.nodes.length := by
        simp only [List.length_append, List.length_singleton] at hlt
        omega
      subst i
      simp only [List.getElem_concat_length] at hn
      subst n
      rfl
  grouped := by
    intro n hn p hnp
    rcases List.mem_append.mp hn with old | new
    · exact (h.grouped n old p hnp).append _
    · rw [List.mem_singleton] at new
      subst n
      exact (hp p hnp).append _
  forward := by
    intro e he
    obtain ⟨i, j, hij, hi, hj⟩ := h.forward e he
    exact ⟨i, j, hij, hi.append _, hj.append _⟩
  bound := fun name id hr => (h.bound name id hr).append _

theorem Sound.addEdge (h : Sound b) {source target : String} {i j : Nat} (hij : i < j)
    (hs : Stands b.nodes i source) (ht : Stands b.nodes j target)
    (columns : Option (List String)) : Sound (b.addEdge source target columns) where
  counted := h.counted
  numbered := h.numbered
  grouped := h.grouped
  forward := by
    intro e he
    rcases List.mem_append.mp he with old | new
    · exact h.forward e old
    · rw [List.mem_singleton] at new
      subst e
      exact ⟨i, j, hij, hs, ht⟩
  bound := h.bound

theorem Sound.assignResult (h : Sound b) {name id : String} (hr : HasResult b.nodes name id) :
    Sound { b with results := Keyed.assign name id b.results } where
  counted := h.counted
  numbered := h.numbered
  grouped := h.grouped
  forward := h.forward
  bound := by
    intro other x hx
    by_cases ho : other = name
    · subst other
      rw [Keyed.lookup_assign_self, Option.some.injEq] at hx
      exact hx ▸ hr
    · rw [Keyed.lookup_assign_of_ne id b.results ho] at hx
      exact h.bound other x hx

/-- The node that a step adds stands behind all others. -/
theorem addNode_stands (parent : Option String) {data : NodeData} (hk : data.kind ≠ .group) :
    Stands (b.addNode parent data).2.nodes b.nodes.length (b.addNode parent data).1 :=
  stands_last b.nodes (n := ⟨nodeId data.kind b.counter, data, parent⟩) (by
    simp [Node.isGroup, Node.kind, hk])

/-- The state within one SELECT, with the end of its chain. -/
structure ChainSound (parent : Option String) (step : Option String × Builder) : Prop where
  sound : Sound step.2
  last : ∀ id, step.1 = some id → ∃ i, Stands step.2.nodes i id
  grouped : ∀ p, parent = some p → HasGroup step.2.nodes p

theorem ChainSound.sameFlow {last : Option String} (h : ChainSound parent (last, b))
    (hs : SameFlow b c) : ChainSound parent (last, c) where
  sound := h.sound.sameFlow hs
  last := by simpa only [hs.nodes] using h.last
  grouped := by simpa only [hs.nodes] using h.grouped

/-- A new node becomes the end of the chain; whatever ended it before is still there. -/
theorem ChainSound.addNode {last : Option String} (h : ChainSound parent (last, b))
    {data : NodeData} (hk : data.kind ≠ .group) :
    ChainSound parent (some (b.addNode parent data).1, (b.addNode parent data).2) where
  sound := h.sound.addNode data h.grouped
  last := by
    rintro id ⟨⟩
    exact ⟨_, addNode_stands parent hk⟩
  grouped := fun p hp => (h.grouped p hp).append _

/-- An edge from a node that was there before to the end of the chain. -/
theorem ChainSound.addEdge {target : String} (h : ChainSound parent (some target, b))
    {source : String} {i j : Nat} (hij : i < j) (hs : Stands b.nodes i source)
    (ht : Stands b.nodes j target) (columns : Option (List String)) :
    ChainSound parent (some target, b.addEdge source target columns) where
  sound := h.sound.addEdge hij hs ht columns
  last := h.last
  grouped := h.grouped

/-- A node at the end of a chain, with an edge from the end before it if there is one. -/
theorem ChainSound.addFed {last : Option String} (h : ChainSound parent (last, b))
    {data : NodeData} (hk : data.kind ≠ .group) (columns : Option (List String)) :
    ChainSound parent (some (b.addNode parent data).1,
      (b.addNode parent data).2.addEdgeFrom last (b.addNode parent data).1 columns) := by
  cases last with
  | none => exact h.addNode hk
  | some left =>
    obtain ⟨i, hi⟩ := h.last left rfl
    exact (h.addNode hk).addEdge hi.lt (hi.append _) (addNode_stands parent hk) columns

theorem ChainSound.extend {last : Option String} (h : ChainSound parent (last, b))
    {data : NodeData} (hk : data.kind ≠ .group) :
    ChainSound parent (b.extend parent last data) := h.addFed hk none

theorem ChainSound.addJoin {left right : String} (h : ChainSound parent (some right, b))
    {i : Nat} (hi : Stands b.nodes i left) (marker : JoinMarker) :
    ChainSound parent (some (b.addJoin ctx parent marker left right).1,
      (b.addJoin ctx parent marker left right).2) := by
  obtain ⟨j, hj⟩ := h.last right rfl
  have hk : NodeData.kind (.join ⟨marker.type,
      (marker.condition.map (Sql.Expr.clauseText ctx.dialect)).getD ""⟩) ≠ .group := by
    simp [NodeData.kind]
  have first := (h.addNode hk).addEdge hi.lt (hi.append _) (addNode_stands parent hk)
    (some ((marker.condition.map fun e => e.references.map (·.column)).getD []))
  exact first.addEdge hj.lt (hj.append _) (addNode_stands parent hk) _

theorem readEntry_sound (ctx : BuildContext) {last : Option String}
    (h : ChainSound parent (last, b)) (e : FromEntry) :
    ChainSound parent (some (b.readEntry ctx parent e).1, (b.readEntry ctx parent e).2) ∧
      ∀ i id, Stands b.nodes i id → Stands (b.readEntry ctx parent e).2.nodes i id := by
  rcases readEntry_cases ctx b parent e with
    ⟨id, d, hr, he, hs⟩ | ⟨_, d, columns, color, hs, he⟩
  · rw [he]
    have hd := h.sameFlow hs
    refine ⟨⟨hd.sound, ?_, hd.grouped⟩, fun i id hi => by simpa only [hs.nodes] using hi⟩
    rintro x ⟨⟩
    simpa only [hs.nodes] using (h.sound.bound e.table id hr).stands
  · rw [he]
    refine ⟨(h.sameFlow hs).addNode (by simp [NodeData.kind]), fun i id hi => ?_⟩
    rw [addNode_nodes, hs.nodes]
    exact hi.append _

theorem takeEntry_sound {step : Option String × Builder} (h : ChainSound parent step)
    (e : FromEntry) : ChainSound parent (takeEntry ctx parent step e) := by
  obtain ⟨last, b⟩ := step
  obtain ⟨hread, kept⟩ := readEntry_sound ctx h e
  unfold takeEntry
  cases hj : e.join with
  | none => exact hread
  | some marker =>
    cases last with
    | none => exact hread
    | some left =>
      obtain ⟨i, hi⟩ := h.last left rfl
      exact hread.addJoin (kept i left hi) marker

theorem takeEntries_sound (entries : List FromEntry) {step : Option String × Builder}
    (h : ChainSound parent step) :
    ChainSound parent (entries.foldl (takeEntry ctx parent) step) := by
  induction entries generalizing step with
  | nil => exact h
  | cons e rest ih => exact ih (takeEntry_sound h e)

theorem ChainSound.filtered {step : Option String × Builder} (h : ChainSound parent step)
    (s : Selection) : ChainSound parent (Builder.filtered ctx parent s step) := by
  unfold Builder.filtered
  cases s.condition with
  | none => exact h
  | some c => exact h.extend (by simp [NodeData.kind])

theorem ChainSound.aggregated {step : Option String × Builder} (h : ChainSound parent step)
    (s : Selection) : ChainSound parent (Builder.aggregated ctx parent s step) := by
  unfold Builder.aggregated
  split
  · exact h
  · exact h.extend (by simp [NodeData.kind])

theorem takeInner_sound (ctx : BuildContext) (h : ChainSound parent (none, b)) (s : Selection) :
    ChainSound parent (b.takeInner ctx parent s) := by
  rw [takeInner_eq]
  have start : ChainSound parent (none, { b with usage := Usage.ofSelection s }) :=
    h.sameFlow ⟨rfl, rfl, rfl, rfl⟩
  exact ((takeEntries_sound s.entries start).filtered s).aggregated s

/-- The frame of a named query is a group for the nodes of its body. -/
theorem opened_sound (h : Sound b) (name : String) :
    ChainSound (some (b.opened name).1) (none, (b.opened name).2) := by
  let colored : Builder :=
    { b with colors := Keyed.assign name b.nextColor b.colors, nextColor := b.nextColor + 1 }
  have hc : Sound colored := h.sameFlow ⟨rfl, rfl, rfl, rfl⟩
  have hs : Sound (colored.addNode none (.group ⟨name, b.nextColor⟩)).2 :=
    hc.addNode _ (by simp)
  refine ⟨hs, by simp, ?_⟩
  rintro p ⟨⟩
  exact ⟨_, List.mem_append_right _ (List.mem_singleton_self _), rfl, rfl⟩

theorem takeNamed_sound (h : Sound b) (name : String) (s : Selection) :
    Sound (b.takeNamed ctx name s) := by
  have inner := takeInner_sound ctx (opened_sound h name) s
  -- The result stands outside the frame, so the chain goes on without a parent.
  have outside : ChainSound none _ := ⟨inner.sound, inner.last, by simp⟩
  rw [takeNamed_eq]
  refine (outside.addFed (by simp [NodeData.kind]) none).sound.assignResult ?_
  rw [addEdgeFrom_nodes]
  exact ⟨_, List.mem_append_right _ (List.mem_singleton_self _), rfl, _, rfl, rfl⟩

theorem takeMain_sound (h : Sound b) (s : Selection) : Sound (b.takeMain ctx s) := by
  have inner : ChainSound none (b.takeInner ctx none s) :=
    takeInner_sound ctx ⟨h, by simp, by simp⟩ s
  obtain ⟨output, _, he⟩ := takeMain_eq ctx b s
  rw [he]
  exact (inner.addFed (by simp [NodeData.kind]) _).sound

theorem run_sound (ctx : BuildContext) (calls : List Call) : Sound (run ctx calls) := by
  refine run_invariant start_sound (fun b call h => ?_) calls
  cases call with
  | named name s => exact takeNamed_sound h name s
  | main s => exact takeMain_sound h s

theorem Sound.nodup_ids (h : Sound b) : b.graph.ids.Nodup := by
  unfold Graph.ids
  rw [List.nodup_iff_pairwise_ne, List.pairwise_iff_getElem]
  intro i j hi hj hij same
  simp only [List.length_map] at hi hj
  simp only [List.getElem_map] at same
  have hni := h.numbered i b.nodes[i] (List.getElem?_eq_getElem hi)
  have hnj := h.numbered j b.nodes[j] (List.getElem?_eq_getElem hj)
  have := (nodeId_injective (hni.symm.trans (same.trans hnj))).2
  omega

theorem Stands.place (h : Sound b) {i : Nat} {id : String} (hs : Stands b.nodes i id) :
    b.graph.place id = i ∧ i < b.graph.nodes.length := by
  obtain ⟨n, hn, rfl, _⟩ := hs
  obtain ⟨hi, hn⟩ := List.getElem?_eq_some_iff.mp hn
  have hl : i < b.graph.ids.length := by simpa [Graph.ids, graph] using hi
  have hid : b.graph.ids[i] = n.id := by simp [Graph.ids, graph, hn]
  refine ⟨?_, hi⟩
  rw [Graph.place, ← hid]
  exact h.nodup_ids.idxOf_getElem i hl

theorem Stands.end_ok (h : Sound b) {i : Nat} {id : String} (hs : Stands b.nodes i id) :
    id ∈ b.graph.ids ∧ id ∉ b.graph.groupIds := by
  obtain ⟨n, hn, rfl, hk⟩ := hs
  have hmem := List.mem_of_getElem? hn
  refine ⟨List.mem_map_of_mem hmem, fun hg => ?_⟩
  obtain ⟨m, hm, same⟩ := List.mem_map.mp hg
  obtain ⟨hm, hgroup⟩ := List.mem_filter.mp hm
  have he : m = n := List.inj_on_of_nodup_map h.nodup_ids hm hmem same
  rw [he, hk] at hgroup
  cases hgroup

theorem Sound.wellFormed (h : Sound b) : b.graph.WellFormed where
  distinct := h.nodup_ids
  grouped := by
    intro n hn p hp
    obtain ⟨g, hg, rfl, hk⟩ := h.grouped n hn p hp
    exact List.mem_map_of_mem (List.mem_filter.mpr ⟨hg, hk⟩)
  ends := by
    intro e he id hid
    obtain ⟨i, j, _, hi, hj⟩ := h.forward e he
    rcases hid with rfl | rfl
    · exact hi.end_ok h
    · exact hj.end_ok h

theorem Sound.forward_graph (h : Sound b) : b.graph.Forward := by
  intro e he
  obtain ⟨i, j, hij, hi, hj⟩ := h.forward e he
  rw [(hi.place h).1, (hj.place h).1]
  exact ⟨hij, (hj.place h).2⟩

/-- However queries are named and repeated, the graph of a builder has no violation: ids are
distinct, parents are groups, and edges end at nodes that are no groups. Every beginning of a run
is a run, so this holds after every call. -/
theorem run_violation_free (ctx : BuildContext) (calls : List Call) :
    (run ctx calls).graph.violations = [] ∧ (run ctx calls).graph.ids.Nodup ∧
      (∀ n ∈ (run ctx calls).graph.nodes, ∀ p, n.parent = some p →
        ∃ g ∈ (run ctx calls).graph.nodes, g.kind = .group ∧ g.id = p) ∧
      ∀ e ∈ (run ctx calls).graph.edges, ∀ id, id = e.source ∨ id = e.target →
        (∃ n ∈ (run ctx calls).graph.nodes, n.id = id) ∧
        ∀ n ∈ (run ctx calls).graph.nodes, n.id = id → n.kind ≠ .group := by
  have h := run_sound ctx calls
  refine ⟨Graph.violations_eq_nil_iff.mpr h.wellFormed, h.wellFormed.distinct, ?_, ?_⟩
  · intro n hn p hp
    obtain ⟨g, hg, hid, hk⟩ := h.grouped n hn p hp
    exact ⟨g, hg, by simpa [Node.isGroup] using hk, hid⟩
  · intro e he id hid
    obtain ⟨hmem, hfree⟩ := h.wellFormed.ends e he id hid
    refine ⟨List.mem_map.mp hmem, ?_⟩
    rintro n hn rfl hk
    exact hfree (List.mem_map_of_mem (List.mem_filter.mpr ⟨hn, by simp [Node.isGroup, hk]⟩))

/-- Every edge leads from a node to a later one. So rows never flow in a circle, and a path has
fewer edges than there are nodes. -/
theorem run_flows_forward (ctx : BuildContext) (calls : List Call) :
    (run ctx calls).graph.Forward ∧
    (∀ id, ¬ Relation.TransGen (run ctx calls).graph.Flows id id) ∧
    ∀ a b n, (run ctx calls).graph.Path a b n → n ≤ (run ctx calls).graph.nodes.length - 1 := by
  have h := (run_sound ctx calls).forward_graph
  exact ⟨h, h.acyclic, fun a b n path => h.path_length_le path⟩

end QueryFlow.Builder
