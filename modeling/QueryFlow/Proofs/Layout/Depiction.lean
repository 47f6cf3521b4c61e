import QueryFlow.Proofs.Dot.Names
import QueryFlow.Proofs.Graph.Views
import QueryFlow.Proofs.Graph.Violations
import QueryFlow.Proofs.Keyed
import QueryFlow.Proofs.Layout.Endings
import Mathlib.Data.List.TakeWhile

/-!
What the document for the solver says about a graph: which nodes it declares and which edges it
writes, and in which cluster. A group is a cluster, and a cluster should mention its own nodes only,
for the solver draws what a cluster mentions inside it. Names are those that the solver reads. The
main statement says that the document divides a well-formed graph in this way exactly when the
lengths can be written, every id is read as it is, and no edge ends at an id with a colon. What the
attributes of nodes and clusters say is not looked at.
-/

namespace QueryFlow

namespace Dot

/-- The node that the end of an edge is at. What stands behind a colon is a port of that node. -/
def endNode (s : String) : String := String.ofList (splitColon s.toList).1

namespace Item

/-- The nodes that an item declares, as their names are read; none for a name that is no text. -/
def declared : Item → List (Option String)
  | .node id _ => [nameOf? id]
  | .edge .. => []

/-- The edges that an item writes, by the nodes at their ends. -/
def written : Item → List (Option String × Option String)
  | .node .. => []
  | .edge source target => [(nameOf? (endNode source), nameOf? (endNode target))]

def mentioned (i : Item) : List (Option String) :=
  i.declared ++ i.written.flatMap fun e => [e.1, e.2]

end Item

namespace Document

def outside (d : Document) : List Item := d.parts.filterMap fun
  | .item i => some i
  | .cluster _ => none

def clusters (d : Document) : List Cluster := d.parts.filterMap fun
  | .item _ => none
  | .cluster c => some c

/-- The items of the whole document, inside and outside of clusters. -/
def items (d : Document) : List Item := d.parts.flatMap fun
  | .item i => [i]
  | .cluster c => c.items

end Document

theorem endNode_eq_self {s : String} (plain : ':' ∉ s.toList) : endNode s = s := by
  rw [endNode, splitColon, ← String.toList_inj, String.toList_ofList, List.takeWhile_eq_self_iff]
  rintro c mem
  rw [bne_iff_ne]
  rintro rfl
  exact plain mem

/-- The node at the end of an edge is read as the text of the end exactly when there is no colon in
the text and the text is read as it is. -/
theorem nameOf?_endNode_iff {s : String} :
    nameOf? (endNode s) = some s ↔ ':' ∉ s.toList ∧ Named s.toList := by
  constructor
  · intro read
    -- A part of a text is not read as the whole text.
    have long := length_le_of_nameOf? read
    rw [endNode, splitColon, String.toList_ofList] at long
    have same : s.toList.takeWhile (· != ':') = s.toList :=
      (List.takeWhile_prefix _).eq_of_length_le long
    have plain : ':' ∉ s.toList := fun mem => by
      rw [← same] at mem
      simpa using List.mem_takeWhile_imp mem
    rw [endNode_eq_self plain] at read
    exact ⟨plain, nameOf?_eq_some_self_iff.mp read⟩
  · rintro ⟨plain, named⟩
    rw [endNode_eq_self plain]
    exact nameOf?_eq_some_self_iff.mpr named

end Dot

/-- A list that is sorted by keys is still the whole list. -/
theorem perm_by_key {α κ : Type} [DecidableEq κ] {key? : α → Option κ} {keys : List κ}
    (distinct : keys.Nodup) {xs : List α} (known : ∀ x ∈ xs, ∀ k, key? x = some k → k ∈ keys) :
    ((xs.filter fun x => (key? x).isNone) ++
      keys.flatMap fun k => xs.filter fun x => key? x == some k).Perm xs := by
  induction xs with
  | nil => simp
  | cons x rest ih =>
    replace ih := ih fun y mem => known y (List.mem_cons_of_mem _ mem)
    cases has : key? x with
    | none => simpa [has] using ih
    | some k =>
      obtain ⟨front, back, rfl⟩ := List.append_of_mem (known x List.mem_cons_self k has)
      have elsewhere (l : List κ) (away : k ∉ l) :
          (l.flatMap fun k' => (x :: rest).filter fun y => key? y == some k') =
            l.flatMap fun k' => rest.filter fun y => key? y == some k' := by
        refine List.flatMap_congr fun k' mem => ?_
        rw [List.filter_cons_of_neg]
        rw [has, beq_iff_eq, Option.some.injEq]
        rintro rfl
        exact away mem
      obtain ⟨_, apart, disjoint⟩ := List.nodup_append.mp distinct
      have inFront : k ∉ front := fun mem => disjoint k mem k List.mem_cons_self rfl
      have behind : k ∉ back := (List.nodup_cons.mp apart).1
      rw [List.flatMap_append, List.flatMap_cons] at ih ⊢
      rw [elsewhere front inFront, elsewhere back behind, List.filter_cons_of_neg (by simp [has]),
        List.filter_cons_of_pos (by simp [has]), List.cons_append, ← List.append_assoc]
      refine List.perm_middle.trans (List.Perm.cons x ?_)
      rwa [List.append_assoc]

def Graph.parentOf? (g : Graph) (id : String) : Option String := (g.node? id).bind (·.parent)

/-- Both ends of the edge have this group as their parent. -/
def Graph.KeepsTo (g : Graph) (group : String) (e : Edge) : Prop :=
  g.parentOf? e.source = some group ∧ g.parentOf? e.target = some group

instance (g : Graph) (group : String) : DecidablePred (g.KeepsTo group) :=
  fun _ => inferInstanceAs (Decidable (_ ∧ _))

/-- The ids at the two ends of an edge. -/
def Edge.ends (e : Edge) : Option String × Option String := (some e.source, some e.target)

/-- There is no colon in the ids at the ends of the edge. -/
def Edge.Plain (e : Edge) : Prop := ':' ∉ e.source.toList ∧ ':' ∉ e.target.toList

instance : DecidablePred Edge.Plain := fun _ => inferInstanceAs (Decidable (_ ∧ _))

namespace Layout

/-- The name under which a node is written into a document. -/
def writtenName (n : Node) : String := if n.isGroup then clusterStart ++ n.id else n.id

/-- The cluster is that of the group. It declares the children of the group, but no groups, and
writes the edges between them, and it mentions nothing else. -/
structure ClusterOf (g : Graph) (group : String) (c : Dot.Cluster) : Prop where
  name : Dot.nameOf? c.name = some (clusterStart ++ group)
  nodes : c.items.flatMap Dot.Item.declared =
    (g.nodes.filter fun n => n.parent == some group && !n.isGroup).map (some ·.id)
  edges : c.items.flatMap Dot.Item.written = (g.edges.filter (g.KeepsTo group ·)).map Edge.ends
  own : ∀ i ∈ c.items, ∀ name ∈ i.mentioned, name.bind g.parentOf? = some group

/-- The document divides the graph by its groups. There is one cluster for each group. All that
belongs to no group stands outside, and in the whole document each node but groups is declared once
and each edge is written once. -/
structure Divides (d : Dot.Document) (g : Graph) : Prop where
  clusters : List.Forall₂ (ClusterOf g) g.groupIds d.clusters
  nodes : d.outside.flatMap Dot.Item.declared =
    (g.nodes.filter fun n => n.parent.isNone && !n.isGroup).map (some ·.id)
  edges : d.outside.flatMap Dot.Item.written =
    (g.edges.filter fun e => ¬∃ group ∈ g.groupIds, g.KeepsTo group e).map Edge.ends
  nodes_once : (d.items.flatMap Dot.Item.declared).Perm
    ((g.nodes.filter (!·.isGroup)).map (some ·.id))
  edges_once : (d.items.flatMap Dot.Item.written).Perm (g.edges.map Edge.ends)

section Division

variable {g : Graph} {n : Node} {e : Edge} {id : String}

theorem groupIds_nodup (distinct : g.ids.Nodup) : g.groupIds.Nodup :=
  distinct.sublist (List.filter_sublist.map _)

theorem isGroup_eq_isSome_frame? (n : Node) : n.isGroup = n.frame?.isSome := by
  unfold Node.isGroup Node.kind Node.frame?
  cases n.data <;> rfl

theorem frames_ids (nodes : List Node) :
    (nodes.filterMap fun n => n.frame?.map (n.id, ·)).map Prod.fst =
      (nodes.filter Node.isGroup).map (·.id) := by
  induction nodes with
  | nil => rfl
  | cons n rest ih =>
    have group := isGroup_eq_isSome_frame? n
    cases frame : n.frame? <;> simp [frame, group, ih]

theorem frames_snd (nodes : List Node) :
    (nodes.filterMap fun n => n.frame?.map (n.id, ·)).map Prod.snd =
      nodes.filterMap Node.frame? := by
  rw [List.map_filterMap]
  refine List.filterMap_congr fun n _ => ?_
  cases n.frame? <;> rfl

/-- The groups are divided off in their order. -/
theorem groups_eq (distinct : g.ids.Nodup) :
    (Division.ofGraph g).groups = g.nodes.filterMap fun n => n.frame?.map (n.id, ·) := by
  have frames : (Division.ofGraph g).groups =
      Keyed.assignAll (g.nodes.filterMap fun n => n.frame?.map (n.id, ·)) [] := by
    refine congrArg (Keyed.assignAll · []) (List.filterMap_congr fun n _ => ?_)
    unfold Node.frame?
    cases n.data <;> rfl
  rw [frames, Keyed.assignAll_of_nodup [], List.nil_append]
  rw [List.nil_append, frames_ids]
  exact groupIds_nodup distinct

theorem groups_ids (distinct : g.ids.Nodup) :
    (Division.ofGraph g).groups.map Prod.fst = g.groupIds := by
  rw [groups_eq distinct, frames_ids, Graph.groupIds]

theorem groups_frames (distinct : g.ids.Nodup) :
    (Division.ofGraph g).groups.map Prod.snd = g.frames := by
  rw [groups_eq distinct, frames_snd, Graph.frames]

theorem isSome_lookup_groups (distinct : g.ids.Nodup) :
    ((Division.ofGraph g).groups.lookup id).isSome = true ↔ id ∈ g.groupIds := by
  rw [← groups_ids distinct]
  simp [List.lookup_isSome_iff]

theorem isSome_lookup_groups_of_group (distinct : g.ids.Nodup) (hn : n ∈ g.nodes) :
    ((Division.ofGraph g).groups.lookup n.id).isSome = n.isGroup := by
  rw [Bool.eq_iff_iff, isSome_lookup_groups distinct, Graph.mem_groupIds]
  constructor
  · rintro ⟨m, hm, group, same⟩
    obtain rfl := List.inj_on_of_nodup_map distinct hm hn same
    rw [Node.isGroup, group]
    rfl
  · intro group
    exact ⟨n, hn, by simpa [Node.isGroup] using group, rfl⟩

theorem groupOf?_eq (h : g.WellFormed) (hn : n ∈ g.nodes) :
    Division.groupOf? (Division.ofGraph g).groups n = n.parent := by
  unfold Division.groupOf?
  cases hp : n.parent with
  | none => rfl
  | some p =>
    have known := (isSome_lookup_groups h.distinct).mpr (h.grouped n hn p hp)
    rw [Option.bind_some, if_pos known]

/-- The other nodes are those that are no groups. -/
theorem nodes_eq (distinct : g.ids.Nodup) :
    (Division.ofGraph g).nodes = g.nodes.filter (!·.isGroup) := by
  refine List.filter_congr fun n hn => ?_
  rw [← isSome_lookup_groups_of_group distinct hn, Option.not_isSome]
  rfl

theorem parentOf?_eq (distinct : g.ids.Nodup) (hn : n ∈ g.nodes) : g.parentOf? n.id = n.parent := by
  cases found : g.node? n.id with
  | none => exact absurd (List.find?_eq_none.mp found n hn) (by simp)
  | some m =>
    have same : m.id = n.id := by simpa using List.find?_some found
    obtain rfl := List.inj_on_of_nodup_map distinct (List.mem_of_find?_eq_some found) hn same
    rw [Graph.parentOf?, found, Option.bind_some]

/-- The other nodes are known by their parents. -/
theorem lookup_membership (h : g.WellFormed) (known : id ∈ g.ids) (other : id ∉ g.groupIds) :
    (Division.ofGraph g).membership.lookup id = g.parentOf? id := by
  obtain ⟨n, hn, rfl⟩ := Graph.mem_ids.mp known
  have mem : n ∈ (Division.ofGraph g).nodes := by
    rw [nodes_eq h.distinct, List.mem_filter]
    refine ⟨hn, ?_⟩
    rw [← isSome_lookup_groups_of_group h.distinct hn, Bool.not_eq_true', Bool.eq_false_iff]
    exact fun found => other ((isSome_lookup_groups h.distinct).mp found)
  have distinct : ((Division.ofGraph g).nodes.map (·.id)).Nodup :=
    h.distinct.sublist (List.filter_sublist.map _)
  rw [parentOf?_eq h.distinct hn, ← groupOf?_eq h hn]
  exact Keyed.lookup_assignAll_filterMap distinct mem

theorem edgeGroup?_eq_some_iff (h : g.WellFormed) (he : e ∈ g.edges) {group : String} :
    (Division.ofGraph g).edgeGroup? e = some group ↔ g.KeepsTo group e := by
  have source := h.ends e he e.source (.inl rfl)
  have target := h.ends e he e.target (.inr rfl)
  unfold Division.edgeGroup? Graph.KeepsTo
  rw [lookup_membership h source.1 source.2, lookup_membership h target.1 target.2]
  cases g.parentOf? e.source with
  | none => simp
  | some p =>
    by_cases same : g.parentOf? e.target = some p
    · simp [same]
    · simp only [beq_iff_eq, same, if_false, Option.some.injEq, reduceCtorEq, false_iff, not_and]
      rintro rfl
      exact same

/-- An edge keeps to a group only if there is such a group. -/
theorem mem_groupIds_of_keepsTo (h : g.WellFormed) {group : String} (keeps : g.KeepsTo group e) :
    group ∈ g.groupIds := by
  obtain ⟨n, found, has⟩ := Option.bind_eq_some_iff.mp keeps.1
  exact h.grouped n (List.mem_of_find?_eq_some found) group has

theorem edgeGroup?_eq_none_iff (h : g.WellFormed) (he : e ∈ g.edges) :
    (Division.ofGraph g).edgeGroup? e = none ↔ ¬∃ group ∈ g.groupIds, g.KeepsTo group e := by
  rw [Option.eq_none_iff_forall_ne_some]
  simp only [ne_eq, edgeGroup?_eq_some_iff h he, not_exists, not_and]
  constructor
  · intro none group _
    exact none group
  · intro none group keeps
    exact none group (mem_groupIds_of_keepsTo h keeps) keeps

theorem outer_eq (h : g.WellFormed) : (Division.ofGraph g).outer =
    g.nodes.filter fun n => n.parent.isNone && !n.isGroup := by
  rw [Division.outer, nodes_eq h.distinct, List.filter_filter]
  refine List.filter_congr fun n hn => ?_
  rw [groupOf?_eq h hn]

theorem inner_eq (h : g.WellFormed) (group : String) : (Division.ofGraph g).inner group =
    g.nodes.filter fun n => n.parent == some group && !n.isGroup := by
  rw [Division.inner, nodes_eq h.distinct, List.filter_filter]
  refine List.filter_congr fun n hn => ?_
  rw [groupOf?_eq h hn]

theorem inner_edges_eq (h : g.WellFormed) (group : String) :
    (g.edges.filter fun e => (Division.ofGraph g).edgeGroup? e == some group) =
      g.edges.filter (g.KeepsTo group ·) := by
  refine List.filter_congr fun e he => ?_
  rw [Bool.eq_iff_iff, beq_iff_eq, decide_eq_true_iff, edgeGroup?_eq_some_iff h he]

theorem outer_edges_eq (h : g.WellFormed) :
    (g.edges.filter fun e => ((Division.ofGraph g).edgeGroup? e).isNone) =
      g.edges.filter fun e => ¬∃ group ∈ g.groupIds, g.KeepsTo group e := by
  refine List.filter_congr fun e he => ?_
  rw [Bool.eq_iff_iff, Option.isNone_iff_eq_none, decide_eq_true_iff, edgeGroup?_eq_none_iff h he]

end Division

section Items

theorem declared_nodeItems (nodes : List Node) :
    (nodes.map nodeItem).flatMap Dot.Item.declared = nodes.map fun n => Dot.nameOf? n.id := by
  rw [List.flatMap_map]
  exact List.flatMap_pure_eq_map ..

theorem declared_edgeItems (edges : List Edge) :
    (edges.map edgeItem).flatMap Dot.Item.declared = [] := by
  rw [List.flatMap_map]
  simp [edgeItem, Dot.Item.declared]

theorem written_nodeItems (nodes : List Node) :
    (nodes.map nodeItem).flatMap Dot.Item.written = [] := by
  rw [List.flatMap_map]
  simp [nodeItem, Dot.Item.written]

def readEnds (e : Edge) : Option String × Option String :=
  (Dot.nameOf? (Dot.endNode e.source), Dot.nameOf? (Dot.endNode e.target))

theorem written_edgeItems (edges : List Edge) :
    (edges.map edgeItem).flatMap Dot.Item.written = edges.map readEnds := by
  rw [List.flatMap_map]
  exact List.flatMap_pure_eq_map ..

theorem readEnds_eq_iff {e : Edge} :
    readEnds e = e.ends ↔ e.Plain ∧ Dot.Named e.source.toList ∧ Dot.Named e.target.toList := by
  rw [readEnds, Edge.ends, Prod.mk.injEq, Dot.nameOf?_endNode_iff, Dot.nameOf?_endNode_iff,
    Edge.Plain]
  exact and_and_and_comm

/-- Nodes that are read as they are declare their ids. -/
theorem names_eq {g : Graph}
    (named : ∀ n ∈ g.nodes, n.isGroup = false → Dot.nameOf? n.id = some n.id) (is : Node → Bool) :
    (g.nodes.filter fun n => is n && !n.isGroup).map (fun n => Dot.nameOf? n.id) =
      (g.nodes.filter fun n => is n && !n.isGroup).map (some ·.id) := by
  refine List.map_congr_left fun n hn => ?_
  obtain ⟨hn, other⟩ := List.mem_filter.mp hn
  exact named n hn (by simpa using (Bool.and_eq_true_iff.mp other).2)

theorem readEnds_filter {g : Graph} (ends : ∀ e ∈ g.edges, readEnds e = e.ends) (is : Edge → Bool) :
    (g.edges.filter is).map readEnds = (g.edges.filter is).map Edge.ends :=
  List.map_congr_left fun e he => ends e (List.mem_of_mem_filter he)

end Items

section Document

variable {g : Graph} {o : Options} {d : Dot.Document} {margin : String}

theorem outside_eq (made : d.parts = parts g margin) :
    d.outside = (Division.ofGraph g).outer.map nodeItem ++
      (g.edges.filter fun e => ((Division.ofGraph g).edgeGroup? e).isNone).map edgeItem := by
  simp [Dot.Document.outside, made, parts, List.filterMap_map, List.filterMap_eq_map']

theorem clusters_eq (made : d.parts = parts g margin) :
    d.clusters = (Division.ofGraph g).groups.map fun x =>
      cluster margin (Division.ofGraph g) g.edges x.1 x.2 := by
  simp [Dot.Document.clusters, made, parts, List.filterMap_map, List.filterMap_eq_map']

theorem items_eq (made : d.parts = parts g margin) :
    d.items = (Division.ofGraph g).outer.map nodeItem ++
      (Division.ofGraph g).groups.flatMap (fun x =>
        (cluster margin (Division.ofGraph g) g.edges x.1 x.2).items) ++
      (g.edges.filter fun e => ((Division.ofGraph g).edgeGroup? e).isNone).map edgeItem := by
  simp [Dot.Document.items, made, parts, List.flatMap_map, ← List.map_eq_flatMap]

theorem parts_of_document (made : document g o = .ok d) : ∃ margin, d.parts = parts g margin := by
  unfold document at made
  split at made
  · cases text : Layout.margin (Division.ofGraph g) o with
    | ok margin =>
      rw [text] at made
      exact ⟨margin, by rw [← Except.ok.inj made]⟩
    | error f =>
      rw [text] at made
      cases made
  · cases made

section Cluster

variable (h : g.WellFormed) (group : String) (frame : NamedGroup)

include h

theorem declared_cluster :
    (cluster margin (Division.ofGraph g) g.edges group frame).items.flatMap Dot.Item.declared =
      (g.nodes.filter fun n => n.parent == some group && !n.isGroup).map
        fun n => Dot.nameOf? n.id := by
  rw [cluster, List.flatMap_append, declared_nodeItems, declared_edgeItems, List.append_nil,
    inner_eq h]

theorem written_cluster :
    (cluster margin (Division.ofGraph g) g.edges group frame).items.flatMap Dot.Item.written =
      (g.edges.filter (g.KeepsTo group ·)).map readEnds := by
  rw [cluster, List.flatMap_append, written_nodeItems, List.nil_append, inner_edges_eq h,
    written_edgeItems]

/-- What a cluster mentions is what it declares and what its edges end at. -/
theorem clusterOf_cluster
    (name : Dot.nameOf? (clusterStart ++ group) = some (clusterStart ++ group))
    (named : ∀ n ∈ g.nodes, n.isGroup = false → Dot.nameOf? n.id = some n.id)
    (ends : ∀ e ∈ g.edges, readEnds e = e.ends) :
    ClusterOf g group (cluster margin (Division.ofGraph g) g.edges group frame) := by
  have nodes : (cluster margin (Division.ofGraph g) g.edges group frame).items.flatMap
      Dot.Item.declared =
        (g.nodes.filter fun n => n.parent == some group && !n.isGroup).map (some ·.id) := by
    rw [declared_cluster h, names_eq named]
  have edges : (cluster margin (Division.ofGraph g) g.edges group frame).items.flatMap
      Dot.Item.written = (g.edges.filter (g.KeepsTo group ·)).map Edge.ends := by
    rw [written_cluster h, readEnds_filter ends]
  refine ⟨name, nodes, edges, fun i hi name mentions => ?_⟩
  rcases List.mem_append.mp mentions with declares | writes
  · have mem := List.mem_flatMap_of_mem hi declares
    rw [nodes, List.mem_map] at mem
    obtain ⟨n, hn, rfl⟩ := mem
    obtain ⟨hn, child⟩ := List.mem_filter.mp hn
    rw [Bool.and_eq_true, beq_iff_eq] at child
    rw [Option.bind_some, parentOf?_eq h.distinct hn, child.1]
  · obtain ⟨ends, written, at'⟩ := List.mem_flatMap.mp writes
    have mem := List.mem_flatMap_of_mem hi written
    rw [edges, List.mem_map] at mem
    obtain ⟨e, he, rfl⟩ := mem
    have keeps : g.KeepsTo group e := by simpa using (List.mem_filter.mp he).2
    rcases List.mem_pair.mp at' with rfl | rfl
    · exact keeps.1
    · exact keeps.2

end Cluster

theorem divides_parts (h : g.WellFormed) (made : d.parts = parts g margin)
    (named : ∀ n ∈ g.nodes, Dot.nameOf? (writtenName n) = some (writtenName n))
    (ends : ∀ e ∈ g.edges, readEnds e = e.ends) : Divides d g := by
  have ids := groups_ids h.distinct
  have nodes : ∀ n ∈ g.nodes, n.isGroup = false → Dot.nameOf? n.id = some n.id :=
    fun n hn other => by simpa [writtenName, other] using named n hn
  refine ⟨?_, ?_, ?_, ?_, ?_⟩
  · rw [clusters_eq made, ← ids, List.forall₂_map_left_iff, List.forall₂_map_right_iff,
      List.forall₂_same]
    intro x hx
    have known : x.1 ∈ g.groupIds := ids ▸ List.mem_map_of_mem hx
    obtain ⟨n, hn, kind, same⟩ := Graph.mem_groupIds.mp known
    have group : n.isGroup = true := by simpa [Node.isGroup] using kind
    have name := named n hn
    rw [writtenName, if_pos group, same] at name
    exact clusterOf_cluster h x.1 x.2 name nodes ends
  · rw [outside_eq made, List.flatMap_append, declared_nodeItems, declared_edgeItems,
      List.append_nil, outer_eq h, names_eq nodes]
  · rw [outside_eq made, List.flatMap_append, written_nodeItems, List.nil_append,
      written_edgeItems, outer_edges_eq h, readEnds_filter ends]
  · have known : ∀ n ∈ g.nodes.filter (!·.isGroup), ∀ p, n.parent = some p → p ∈ g.groupIds :=
      fun n hn => h.grouped n (List.mem_of_mem_filter hn)
    have sorted := (perm_by_key (groupIds_nodup h.distinct) known).map (some ·.id)
    rw [List.map_append, List.map_flatMap, ← ids, List.flatMap_map] at sorted
    simp only [List.filter_filter] at sorted
    rw [items_eq made, List.flatMap_append, List.flatMap_append, declared_nodeItems,
      declared_edgeItems, List.append_nil, outer_eq h, List.flatMap_assoc]
    simpa only [declared_cluster h, names_eq nodes] using sorted
  · have known : ∀ e ∈ g.edges, ∀ p, (Division.ofGraph g).edgeGroup? e = some p → p ∈ g.groupIds :=
      fun e he p found => mem_groupIds_of_keepsTo h ((edgeGroup?_eq_some_iff h he).mp found)
    have sorted := (perm_by_key (groupIds_nodup h.distinct) known).map Edge.ends
    rw [List.map_append, List.map_flatMap, ← ids, List.flatMap_map] at sorted
    simp only [inner_edges_eq h] at sorted
    rw [items_eq made, List.flatMap_append, List.flatMap_append, written_nodeItems,
      List.nil_append, written_edgeItems, List.flatMap_assoc]
    simp only [written_cluster h, readEnds_filter ends]
    exact List.perm_append_comm.trans sorted

section Divides

variable (h : g.WellFormed) (made : d.parts = parts g margin) (divides : Divides d g)

include h made divides

/-- A document that divides a graph has a cluster for each group, made of its frame. -/
theorem clusterOf_of_divides {group : String} (known : group ∈ g.groupIds) :
    ∃ frame, ClusterOf g group (cluster margin (Division.ofGraph g) g.edges group frame) := by
  have clusters := divides.clusters
  rw [clusters_eq made, ← groups_ids h.distinct, List.forall₂_map_left_iff,
    List.forall₂_map_right_iff, List.forall₂_same] at clusters
  rw [← groups_ids h.distinct] at known
  obtain ⟨x, hx, rfl⟩ := List.mem_map.mp known
  exact ⟨x.2, clusters x hx⟩

/-- The names in a document that divides a graph are read as they are. -/
theorem named_of_divides {n : Node} (hn : n ∈ g.nodes) :
    Dot.nameOf? (writtenName n) = some (writtenName n) := by
  unfold writtenName
  cases group : n.isGroup with
  | true =>
    have known : n.id ∈ g.groupIds :=
      Graph.mem_groupIds.mpr ⟨n, hn, by simpa [Node.isGroup] using group, rfl⟩
    obtain ⟨frame, ofGroup⟩ := clusterOf_of_divides h made divides known
    exact ofGroup.name
  | false =>
    cases parent : n.parent with
    | none =>
      have nodes := divides.nodes
      rw [outside_eq made, List.flatMap_append, declared_nodeItems, declared_edgeItems,
        List.append_nil, outer_eq h, List.map_inj_left] at nodes
      exact nodes n (List.mem_filter.mpr ⟨hn, by simp [parent, group]⟩)
    | some p =>
      obtain ⟨frame, ofGroup⟩ := clusterOf_of_divides h made divides (h.grouped n hn p parent)
      have nodes := ofGroup.nodes
      rw [declared_cluster h, List.map_inj_left] at nodes
      exact nodes n (List.mem_filter.mpr ⟨hn, by simp [parent, group]⟩)

/-- The ends of edges in a document that divides a graph are read as they are. -/
theorem readEnds_of_divides {e : Edge} (he : e ∈ g.edges) : readEnds e = e.ends := by
  by_cases inside : ∃ group ∈ g.groupIds, g.KeepsTo group e
  · obtain ⟨group, known, keeps⟩ := inside
    obtain ⟨frame, ofGroup⟩ := clusterOf_of_divides h made divides known
    have edges := ofGroup.edges
    rw [written_cluster h, List.map_inj_left] at edges
    exact edges e (List.mem_filter.mpr ⟨he, by simpa using keeps⟩)
  · have edges := divides.edges
    rw [outside_eq made, List.flatMap_append, written_nodeItems, List.nil_append,
      written_edgeItems, outer_edges_eq h, List.map_inj_left] at edges
    exact edges e (List.mem_filter.mpr ⟨he, by simpa using inside⟩)

end Divides

/-- The document for a well-formed graph divides the graph by its groups exactly when the lengths
can be written, without which there is no document, no edge ends at an id with a colon, and the
names of all nodes and clusters are read as they are. -/
theorem document_divides_iff (sound : g.violations = []) :
    (∃ d, document g o = .ok d ∧ Divides d g) ↔
      o.Suit g ∧ (∀ e ∈ g.edges, e.Plain) ∧
        ∀ n ∈ g.nodes, Dot.Named (writtenName n).toList := by
  have h := Graph.violations_eq_nil_iff.mp sound
  constructor
  · rintro ⟨d, made, divides⟩
    obtain ⟨margin, parts⟩ := parts_of_document made
    refine ⟨exists_document_iff.mp ⟨d, made⟩, fun e he => ?_, fun n hn => ?_⟩
    · exact (readEnds_eq_iff.mp (readEnds_of_divides h parts divides he)).1
    · exact Dot.nameOf?_eq_some_self_iff.mp (named_of_divides h parts divides hn)
  · rintro ⟨suits, plain, named⟩
    obtain ⟨d, made⟩ := exists_document_iff.mpr suits
    obtain ⟨margin, parts⟩ := parts_of_document made
    -- An edge of a well-formed graph ends at nodes that are declared.
    have end' {id : String} (known : id ∈ g.ids) (other : id ∉ g.groupIds) :
        Dot.Named id.toList := by
      obtain ⟨n, hn, rfl⟩ := Graph.mem_ids.mp known
      have noGroup : n.isGroup = false := by
        by_contra group
        exact other (Graph.mem_groupIds.mpr ⟨n, hn, by simpa [Node.isGroup] using group, rfl⟩)
      simpa [writtenName, noGroup] using named n hn
    refine ⟨d, made, divides_parts h parts
      (fun n hn => Dot.nameOf?_eq_some_self_iff.mpr (named n hn)) fun e he => ?_⟩
    have source := h.ends e he e.source (.inl rfl)
    have target := h.ends e he e.target (.inr rfl)
    exact readEnds_eq_iff.mpr ⟨plain e he, end' source.1 source.2, end' target.1 target.2⟩

end Document

/-- A table and a filter in a group, with two edges between them, and the output outside. -/
def filteredInGroup : Graph :=
  ⟨[⟨"group", .group ⟨"t", 0⟩, none⟩, ⟨"table", .table ⟨"orders", none, [], 0⟩, some "group"⟩,
    ⟨"filter", .filter ⟨"a > 1"⟩, some "group"⟩, ⟨"output", .output {}, none⟩],
   [⟨"first", "table", "filter", none, none, none⟩, ⟨"second", "table", "filter", none, none, none⟩,
    ⟨"last", "filter", "output", none, none, none⟩]⟩

theorem document_divides_filtered :
    filteredInGroup.violations = [] ∧
      ∃ d, document filteredInGroup {} = .ok d ∧ Divides d filteredInGroup := by
  have sound : filteredInGroup.violations = [] := by decide
  have suits : ({} : Options).Suit filteredInGroup :=
    ⟨by decide +kernel, by decide +kernel, fun _ => by decide +kernel⟩
  exact ⟨sound, (document_divides_iff sound).mpr ⟨suits, by decide +kernel, by decide +kernel⟩⟩

/-- A table and a filter in a group, and an output outside. The id of the table is that of the
output with a colon and a number behind it. -/
def portInGroup : Graph :=
  ⟨[⟨"g", .group ⟨"t", 0⟩, none⟩, ⟨"x:1", .table ⟨"orders", none, [], 0⟩, some "g"⟩,
    ⟨"y", .filter ⟨"a"⟩, some "g"⟩, ⟨"x", .output {}, none⟩],
   [⟨"e", "x:1", "y", none, none, none⟩]⟩

/-- The edge inside the group is written at the output, which so gets into the cluster. -/
theorem document_divides_not :
    ¬ ∀ (g : Graph) (o : Options), g.violations = [] →
      ∃ d, document g o = .ok d ∧ Divides d g := by
  intro h
  have sound : portInGroup.violations = [] := by decide
  obtain ⟨d, made, divides⟩ := h portInGroup {} sound
  obtain ⟨margin, parts⟩ := parts_of_document made
  have ends := readEnds_of_divides (Graph.violations_eq_nil_iff.mp sound) parts divides
    (List.mem_singleton.mpr rfl)
  exact (readEnds_eq_iff.mp ends).1.1 (by decide)

end Layout

end QueryFlow
