import QueryFlow.Proofs.Builder.Growth
import QueryFlow.Proofs.Builder.Sound
import Mathlib.Data.List.Flatten
import Mathlib.Data.List.Induction

/-!
A run as a list of parts. The main statement is that after every call the graph is made of the parts
so far, where each entry reads what its name means in the parts before its own. Since ids are
distinct, the edges at a node are those of its own part, apart from the edges that leave the result
of a named query.
-/

namespace QueryFlow

namespace Builder

variable {ctx : BuildContext}

/-- The parts are what the calls of a run add to its graph, one by one. -/
structure Chronicle (ctx : BuildContext) (parts : List Part) : Prop where
  nodes : ∀ before, before <+: parts →
    (run ctx (before.map (·.call))).nodes = before.flatMap Part.nodes
  wires : ∀ before, before <+: parts →
    (run ctx (before.map (·.call))).wires = before.flatMap Part.wires
  meaning : ∀ before, before <+: parts →
    (run ctx (before.map (·.call))).meaning = Part.latest? before
  fits : ∀ before p, before ++ [p] <+: parts → p.Fits ctx (Part.latest? before)

theorem run_concat (ctx : BuildContext) (calls : List Call) (call : Call) :
    run ctx (calls ++ [call]) = take ctx (run ctx calls) call := by
  rw [run, List.foldl_append]
  rfl

theorem start_chronicle (ctx : BuildContext) : Chronicle ctx [] where
  nodes := by simp [run]
  wires := by simp [run, Builder.wires]
  meaning := by
    intro before h
    rw [List.prefix_nil.mp h]
    rfl
  fits := by simp

theorem Chronicle.concat {parts : List Part} (h : Chronicle ctx parts) {p : Part}
    (gains : Gains ctx (run ctx (parts.map (·.call)))
      (take ctx (run ctx (parts.map (·.call))) p.call) p) : Chronicle ctx (parts ++ [p]) where
  nodes := by
    intro before hb
    rcases List.prefix_concat_iff.mp hb with rfl | old
    · rw [List.map_append, List.map_singleton, run_concat, gains.nodes, h.nodes _ List.prefix_rfl,
        List.flatMap_append, List.flatMap_singleton]
    · exact h.nodes before old
  wires := by
    intro before hb
    rcases List.prefix_concat_iff.mp hb with rfl | old
    · rw [List.map_append, List.map_singleton, run_concat, gains.wires, h.wires _ List.prefix_rfl,
        List.flatMap_append, List.flatMap_singleton]
    · exact h.wires before old
  meaning := by
    intro before hb
    rcases List.prefix_concat_iff.mp hb with rfl | old
    · funext name
      rw [List.map_append, List.map_singleton, run_concat, gains.meaning,
        h.meaning _ List.prefix_rfl, Part.latest?_append]
    · exact h.meaning before old
  fits := by
    intro before q hb
    rcases List.prefix_concat_iff.mp hb with new | old
    · obtain ⟨rfl, same⟩ := List.append_inj' new rfl
      obtain rfl := List.singleton_inj.mp same
      exact h.meaning _ List.prefix_rfl ▸ gains.fits
    · exact h.fits before q old

/-- More calls add more parts. -/
theorem Chronicle.goOn {parts : List Part} (h : Chronicle ctx parts) (calls : List Call) :
    ∃ more, more.map (·.call) = calls ∧ Chronicle ctx (parts ++ more) := by
  induction calls using List.reverseRecOn with
  | nil => exact ⟨[], rfl, by rwa [List.append_nil]⟩
  | append_singleton calls call ih =>
    obtain ⟨more, rfl, h⟩ := ih
    obtain ⟨p, rfl, gains⟩ := take_gains ctx (run ctx ((parts ++ more).map (·.call))) call
    exact ⟨more ++ [p], by simp, List.append_assoc parts more [p] ▸ h.concat gains⟩

/-- The graph of a run is made of parts, one for each call. -/
theorem run_chronicle (ctx : BuildContext) (calls : List Call) :
    ∃ parts, parts.map (·.call) = calls ∧ Chronicle ctx parts :=
  (start_chronicle ctx).goOn calls

namespace Chronicle

variable {parts before after : List Part} {p : Part}

theorem graph_nodes (h : Chronicle ctx parts) :
    (run ctx (parts.map (·.call))).graph.nodes = parts.flatMap Part.nodes :=
  h.nodes parts List.prefix_rfl

theorem graph_wires (h : Chronicle ctx parts) :
    (run ctx (parts.map (·.call))).graph.edges.map Edge.wire = parts.flatMap Part.wires :=
  h.wires parts List.prefix_rfl

/-- Rows flow along the edges of the parts. -/
theorem flows_iff (h : Chronicle ctx parts) {a b : String} :
    (run ctx (parts.map (·.call))).graph.Flows a b ↔
      ∃ p ∈ parts, ∃ w ∈ p.wires, w.source = a ∧ w.target = b := by
  constructor
  · rintro ⟨e, he, hsource, htarget⟩
    have hw : e.wire ∈ parts.flatMap Part.wires := h.graph_wires ▸ List.mem_map_of_mem he
    obtain ⟨p, hp, hw⟩ := List.mem_flatMap.mp hw
    exact ⟨p, hp, e.wire, hw, hsource, htarget⟩
  · rintro ⟨p, hp, w, hw, hsource, htarget⟩
    have all : w ∈ (run ctx (parts.map (·.call))).graph.edges.map Edge.wire :=
      h.graph_wires ▸ List.mem_flatMap.mpr ⟨p, hp, hw⟩
    obtain ⟨e, he, rfl⟩ := List.mem_map.mp all
    exact ⟨e, he, hsource, htarget⟩

theorem fits_at (h : Chronicle ctx parts) (hs : parts = before ++ p :: after) :
    p.Fits ctx (Part.latest? before) :=
  h.fits before p ⟨after, by simp [hs]⟩

/-- Every node belongs to a part. -/
theorem part_of_mem (h : Chronicle ctx parts) {n : Node}
    (hn : n ∈ (run ctx (parts.map (·.call))).graph.nodes) :
    ∃ before p after, parts = before ++ p :: after ∧ n ∈ p.nodes := by
  rw [h.graph_nodes] at hn
  obtain ⟨p, hp, hn⟩ := List.mem_flatMap.mp hn
  obtain ⟨before, after, hs⟩ := List.append_of_mem hp
  exact ⟨before, p, after, hs, hn⟩

theorem fits_of_mem (h : Chronicle ctx parts) (hp : p ∈ parts) :
    ∃ before, before <+: parts ∧ p.Fits ctx (Part.latest? before) := by
  obtain ⟨before, after, hs⟩ := List.append_of_mem hp
  exact ⟨before, ⟨p :: after, hs.symm⟩, h.fits_at hs⟩

theorem nodup (h : Chronicle ctx parts) : ((parts.flatMap Part.nodes).map (·.id)).Nodup := by
  rw [← h.graph_nodes]
  exact (run_sound ctx _).nodup_ids

theorem eq_of_id (h : Chronicle ctx parts) {m n : Node} (hm : m ∈ parts.flatMap Part.nodes)
    (hn : n ∈ parts.flatMap Part.nodes) (same : m.id = n.id) : m = n :=
  List.inj_on_of_nodup_map h.nodup hm hn same

/-- The nodes of a part are nodes of the run. -/
theorem nodes_sublist (hp : p ∈ parts) : p.nodes.Sublist (parts.flatMap Part.nodes) := by
  simpa using (List.singleton_sublist.mpr hp).flatMap Part.nodes

theorem part_nodup (h : Chronicle ctx parts) (hp : p ∈ parts) : (p.nodes.map (·.id)).Nodup :=
  h.nodup.sublist ((nodes_sublist hp).map _)

end Chronicle

/-- What a name means is the result of a named query. -/
theorem Part.mem_of_latest? {parts : List Part} {name id : String}
    (h : Part.latest? parts name = some id) :
    ∃ p ∈ parts, p.call.name? = some name ∧ p.result.id = id := by
  obtain ⟨p, hp, rfl⟩ := Option.map_eq_some_iff.mp h
  refine ⟨p, List.mem_reverse.mp (List.mem_of_find?_eq_some hp), ?_, rfl⟩
  simpa using List.find?_some hp

theorem Part.Fits.result_named {p : Part} {meaning : String → Option String}
    (h : p.Fits ctx meaning) {name : String} (hn : p.call.name? = some name) :
    p.result.kind = .named := by
  have result := h.result
  cases hc : p.call with
  | named other s =>
    rw [hc] at result
    obtain ⟨_, r, hd, _⟩ := result
    rw [Node.kind, hd]
    rfl
  | main s => simp [hc, Call.name?] at hn

namespace Chronicle

variable {parts before after : List Part} {p : Part}

/-- What a name means is a result in front. -/
theorem result_of_latest? (h : Chronicle ctx parts) (hb : before <+: parts) {name id : String}
    (meant : Part.latest? before name = some id) :
    ∃ n ∈ before.flatMap Part.nodes, n.kind = .named ∧ n.id = id := by
  obtain ⟨q, hq, hn, rfl⟩ := Part.mem_of_latest? meant
  obtain ⟨_, _, fits⟩ := h.fits_of_mem (hb.subset hq)
  exact ⟨q.result, List.mem_flatMap.mpr ⟨q, hq, Part.mem_nodes.mpr (.inr (.inr rfl))⟩,
    fits.result_named hn, rfl⟩

/-- Only results of named queries are meant by names. -/
theorem unnamed (h : Chronicle ctx parts) (hb : before <+: parts) {n : Node}
    (hn : n ∈ parts.flatMap Part.nodes) (hk : n.kind ≠ .named) (name : String) :
    Part.latest? before name ≠ some n.id := by
  intro meant
  obtain ⟨m, hm, named, same⟩ := h.result_of_latest? hb meant
  have whole : m ∈ parts.flatMap Part.nodes := by
    obtain ⟨q, hq, hm⟩ := List.mem_flatMap.mp hm
    exact List.mem_flatMap.mpr ⟨q, hb.subset hq, hm⟩
  exact hk (h.eq_of_id whole hn same ▸ named)

/-- The parts have no ids in common. -/
theorem id_of_other (h : Chronicle ctx parts) (hs : parts = before ++ p :: after) {m n : Node}
    (hn : n ∈ p.nodes) {q : Part} (hq : q ∈ before ∨ q ∈ after) (hm : m ∈ q.nodes) :
    m.id ≠ n.id := by
  have distinct := h.nodup
  rw [hs, List.flatMap_append, List.flatMap_cons, List.map_append, List.map_append] at distinct
  rcases hq with hq | hq
  · have here := List.mem_map_of_mem (f := (·.id)) (List.mem_flatMap.mpr ⟨q, hq, hm⟩)
    exact (List.nodup_append.mp distinct).2.2 _ here _
      (List.mem_append_left _ (List.mem_map_of_mem hn))
  · have here := List.mem_map_of_mem (f := (·.id)) (List.mem_flatMap.mpr ⟨q, hq, hm⟩)
    have tail := (List.nodup_append.mp distinct).2.1
    exact fun same => (List.nodup_append.mp tail).2.2 _ (List.mem_map_of_mem hn) _ here same.symm

/-- No edge of another part ends at a node, nor does one start there, unless it is a result. -/
theorem wire_of_other (h : Chronicle ctx parts) (hs : parts = before ++ p :: after) {n : Node}
    (hn : n ∈ p.nodes) {q : Part} (hq : q ∈ before ∨ q ∈ after) {w : Wire} (hw : w ∈ q.wires) :
    w.target ≠ n.id ∧ (n.kind ≠ .named → w.source ≠ n.id) := by
  have mem : q ∈ parts := by
    rw [hs, List.mem_append, List.mem_cons]
    exact hq.imp_right .inr
  obtain ⟨front, hf, fits⟩ := h.fits_of_mem mem
  refine ⟨fun same => ?_, fun hk same => ?_⟩
  · rcases fits.target_mem hw with inside | result
    · obtain ⟨m, hm, hid⟩ := List.mem_map.mp inside
      exact h.id_of_other hs hn hq (Part.mem_nodes.mpr (.inr (.inl hm))) (hid.trans same)
    · exact h.id_of_other hs hn hq (Part.mem_nodes.mpr (.inr (.inr rfl))) (result.symm.trans same)
  · rcases fits.source_mem hw with inside | ⟨name, meant⟩
    · obtain ⟨m, hm, hid⟩ := List.mem_map.mp inside
      exact h.id_of_other hs hn hq (Part.mem_nodes.mpr (.inr (.inl hm))) (hid.trans same)
    · have all : n ∈ parts.flatMap Part.nodes := List.mem_flatMap.mpr ⟨p, by simp [hs], hn⟩
      exact h.unnamed hf all hk name (same ▸ meant)

/-- The edges at a node are edges of its part, those out of a named result apart. -/
theorem wire_mem (h : Chronicle ctx parts) (hs : parts = before ++ p :: after) {n : Node}
    (hn : n ∈ p.nodes) {e : Edge} (he : e ∈ (run ctx (parts.map (·.call))).graph.edges)
    (at_node : e.target = n.id ∨ n.kind ≠ .named ∧ e.source = n.id) : e.wire ∈ p.wires := by
  have hw : e.wire ∈ parts.flatMap Part.wires := h.graph_wires ▸ List.mem_map_of_mem he
  obtain ⟨q, hq, hw⟩ := List.mem_flatMap.mp hw
  have other : ¬ (q ∈ before ∨ q ∈ after) := fun hq =>
    have away := h.wire_of_other hs hn hq hw
    at_node.elim away.1 fun out => away.2 out.1 out.2
  obtain rfl : q = p := by
    rw [hs, List.mem_append, List.mem_cons] at hq
    tauto
  exact hw

end Chronicle

end Builder

end QueryFlow
