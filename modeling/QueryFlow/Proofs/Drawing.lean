import QueryFlow.Drawing
import QueryFlow.Proofs.Graph.Violations

/-!
What a drawing shows of a graph, and in which order. A renderer must know a parent before its
children, so groups are drawn first. The main statement says that every node and every edge is drawn
once, and that parents come first exactly when each group that lies in another one stands behind it
in the graph. For groups the order of the graph is kept, so a group may be drawn before its parent,
as a graph of two groups shows. Boxes and colors are not looked at here.
-/

namespace QueryFlow.Drawing

/-- Every item that has a parent stands behind it. -/
def ParentsFirst {α β : Type} (parent? id? : α → Option β) (items : List α) : Prop :=
  ∀ front item back p, items = front ++ item :: back → parent? item = some p →
    ∃ other ∈ front, id? other = some p

section Order

variable {α β γ : Type} {parent? id? : α → Option β} {xs ys : List α}

theorem parentsFirst_map_iff {f : γ → α} {items : List γ} :
    ParentsFirst parent? id? (items.map f) ↔
      ParentsFirst (fun c => parent? (f c)) (fun c => id? (f c)) items := by
  constructor
  · rintro h front item back p rfl has
    obtain ⟨other, mem, named⟩ := h (front.map f) (f item) (back.map f) p (by simp) has
    obtain ⟨c, hc, rfl⟩ := List.mem_map.mp mem
    exact ⟨c, hc, named⟩
  · intro h front item back p split has
    obtain ⟨front', rest, rfl, rfl, tail⟩ := List.map_eq_append_iff.mp split
    obtain ⟨item', back', rfl, rfl, rfl⟩ := List.map_eq_cons_iff.mp tail
    obtain ⟨other, mem, named⟩ := h front' item' back' p rfl has
    exact ⟨f other, List.mem_map_of_mem mem, named⟩

/-- Ids may be wrapped up, as long as they stay apart. -/
theorem parentsFirst_wrap_iff {wrap : β → γ} (apart : Function.Injective wrap) :
    ParentsFirst (fun a => (parent? a).map wrap) (fun a => (id? a).map wrap) xs ↔
      ParentsFirst parent? id? xs := by
  have same (a : α) (p : β) : (id? a).map wrap = some (wrap p) ↔ id? a = some p := by
    rw [← Option.map_some, (Option.map_injective apart).eq_iff]
  constructor
  · intro h front item back p split has
    obtain ⟨other, mem, named⟩ := h front item back (wrap p) split (by simp [has])
    exact ⟨other, mem, (same other p).mp named⟩
  · intro h front item back q split has
    obtain ⟨p, hasP, rfl⟩ := Option.map_eq_some_iff.mp has
    obtain ⟨other, mem, named⟩ := h front item back p split hasP
    exact ⟨other, mem, (same other p).mpr named⟩

/-- Behind the parents of all of them, items may stand in any order. -/
theorem parentsFirst_append_iff
    (known : ∀ y ∈ ys, ∀ p, parent? y = some p → ∃ x ∈ xs, id? x = some p) :
    ParentsFirst parent? id? (xs ++ ys) ↔ ParentsFirst parent? id? xs := by
  constructor
  · rintro h front item back p rfl has
    exact h front item (back ++ ys) p (by simp) has
  · intro h front item back p split has
    rcases List.append_eq_append_iff.mp split with ⟨more, rfl, rest⟩ | ⟨more, rfl, rest⟩
    · obtain ⟨other, mem, named⟩ := known item (by simp [rest]) p has
      exact ⟨other, List.mem_append_left _ mem, named⟩
    · rcases List.cons_eq_append_iff.mp rest with ⟨rfl, rfl⟩ | ⟨back', rfl, rfl⟩
      · obtain ⟨other, mem, named⟩ := known item List.mem_cons_self p has
        exact ⟨other, by simpa using mem, named⟩
      · exact h front item back' p rfl has

end Order

def parent? (n : Node) : Option String := n.parent.bind nonEmpty?

/-- An entry shows a node. -/
structure ShowsNode (n : Node) (entry : Json) : Prop where
  id : entry.field? "id" = some (.string n.id)
  kind : entry.field? "type" = some (.string n.kind.name)
  parent : entry.field? "parentId" = (parent? n).map .string

/-- An entry shows an edge. -/
structure ShowsEdge (e : Edge) (entry : Json) : Prop where
  id : entry.field? "id" = some (.string e.id)
  source : entry.field? "source" = some (.string e.source)
  target : entry.field? "target" = some (.string e.target)

/-- Every group that lies in another one stands behind it. -/
def OuterFirst (g : Graph) : Prop :=
  ParentsFirst parent? (fun n => some n.id) (g.nodes.filter Node.isGroup)

section Entries

variable {g : Graph} {positions : Layout.Positions Float} {lineage : Option (List LineageEntry)}

theorem showsNode (positions : Layout.Positions Float) (n : Node) :
    ShowsNode n (nodeToJson (drawnNode positions n)) := by
  refine ⟨rfl, rfl, ?_⟩
  unfold nodeToJson drawnNode parent?
  cases n.parent.bind nonEmpty? <;> rfl

theorem showsEdge (e : Edge) : ShowsEdge e (edgeToJson e) := ⟨rfl, rfl, rfl⟩

/-- The entries of nodes are in the order of the nodes. -/
theorem parentsFirst_entries_iff {nodes : List Node} :
    ParentsFirst (Json.field? "parentId") (Json.field? "id")
        (nodes.map fun n => nodeToJson (drawnNode positions n)) ↔
      ParentsFirst parent? (fun n => some n.id) nodes := by
  have wrapped : ParentsFirst (fun n : Node => (parent? n).map Json.string)
      (fun n => (some n.id).map Json.string) nodes ↔ _ :=
    parentsFirst_wrap_iff fun _ _ => Json.string.inj
  rw [parentsFirst_map_iff, ← wrapped]
  simp only [(showsNode positions _).id, (showsNode positions _).parent, Option.map_some]

theorem parentsFirst_groupsFirst_iff (grouped : ∀ n ∈ g.nodes, ∀ p, n.parent = some p →
    p ∈ g.groupIds) :
    ParentsFirst parent? (fun n => some n.id) (groupsFirst g.nodes) ↔ OuterFirst g := by
  refine parentsFirst_append_iff fun n mem p has => ?_
  obtain ⟨q, lies, named⟩ := Option.bind_eq_some_iff.mp has
  obtain ⟨rfl, _⟩ := nonEmpty?_eq_some.mp named
  obtain ⟨outer, found, rfl⟩ := List.mem_map.mp (grouped n (List.mem_of_mem_filter mem) q lies)
  exact ⟨outer, found, rfl⟩

theorem groupsFirst_perm (nodes : List Node) : (groupsFirst nodes).Perm nodes :=
  List.filter_append_perm Node.isGroup nodes

theorem entries_show (positions : Layout.Positions Float) (nodes : List Node) :
    List.Forall₂ ShowsNode nodes (nodes.map fun n => nodeToJson (drawnNode positions n)) :=
  List.forall₂_map_right_iff.mpr (List.forall₂_same.mpr fun n _ => showsNode positions n)

theorem edges_show (edges : List Edge) : List.Forall₂ ShowsEdge edges (edges.map edgeToJson) :=
  List.forall₂_map_right_iff.mpr (List.forall₂_same.mpr fun e _ => showsEdge e)

/-- A drawing of a well-formed graph has one entry for each node, in some order, and one entry for
each edge, in order. Each entry that has a parent stands behind the entry of its parent exactly when
every group that lies in another one stands behind it in the graph. -/
theorem parents_drawn_first_iff (sound : g.violations = []) (positions : Layout.Positions Float)
    (lineage : Option (List LineageEntry)) :
    ∃ nodes edges,
      (ofGraph g positions lineage).toJson.field? "nodes" = some (.array nodes) ∧
      (ofGraph g positions lineage).toJson.field? "edges" = some (.array edges) ∧
      (∃ order : List Node, order.Perm g.nodes ∧ List.Forall₂ ShowsNode order nodes) ∧
      List.Forall₂ ShowsEdge g.edges edges ∧
      (ParentsFirst (Json.field? "parentId") (Json.field? "id") nodes ↔ OuterFirst g) := by
  have grouped := (Graph.violations_eq_nil_iff.mp sound).grouped
  refine ⟨(groupsFirst g.nodes).map fun n => nodeToJson (drawnNode positions n),
    g.edges.map edgeToJson, ?_, rfl, ?_, edges_show g.edges, ?_⟩
  · rw [toJson, fields, ofGraph, List.map_map]
    rfl
  · exact ⟨groupsFirst g.nodes, groupsFirst_perm g.nodes, entries_show positions _⟩
  · exact parentsFirst_entries_iff.trans (parentsFirst_groupsFirst_iff grouped)

end Entries

/-- A table in a group, listed in front of it, and the group in an outer one. -/
def tableInGroups : Graph :=
  ⟨[⟨"table", .table ⟨"orders", none, [], 0⟩, some "inner"⟩, ⟨"outer", .group ⟨"a", 0⟩, none⟩,
    ⟨"inner", .group ⟨"b", 1⟩, some "outer"⟩], []⟩

theorem parents_drawn_first_nested :
    tableInGroups.violations = [] ∧ ∃ nodes,
      (ofGraph tableInGroups [] none).toJson.field? "nodes" = some (.array nodes) ∧
      ParentsFirst (Json.field? "parentId") (Json.field? "id") nodes := by
  have sound : tableInGroups.violations = [] := by decide
  obtain ⟨nodes, _, listed, _, _, _, first⟩ := parents_drawn_first_iff sound [] none
  refine ⟨sound, nodes, listed, first.mpr ?_⟩
  -- the groups are the outer one and then the inner one
  rintro front item back p split has
  match front with
  | [] => cases split; cases has
  | [outer] =>
    obtain ⟨rfl, rest⟩ := List.cons.inj split
    cases rest
    cases has
    exact ⟨_, List.mem_cons_self, rfl⟩
  | _ :: _ :: _ :: _ => cases split

/-- A group that lies in an outer one and is listed in front of it. -/
def innerInFront : Graph :=
  ⟨[⟨"inner", .group ⟨"a", 0⟩, some "outer"⟩, ⟨"outer", .group ⟨"b", 1⟩, none⟩], []⟩

/-- A parent may be drawn behind its child, although no rule of the graph is broken. -/
theorem parent_drawn_behind :
    ¬ ∀ (g : Graph) (positions : Layout.Positions Float) (lineage : Option (List LineageEntry)),
      g.violations = [] → ∀ nodes,
        (ofGraph g positions lineage).toJson.field? "nodes" = some (.array nodes) →
          ParentsFirst (Json.field? "parentId") (Json.field? "id") nodes := by
  intro h
  have first := h innerInFront [] none (by decide) _ rfl
  obtain ⟨_, mem, _⟩ := first [] _ _ _ rfl rfl
  cases mem

end QueryFlow.Drawing
