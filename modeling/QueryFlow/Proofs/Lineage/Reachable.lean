import QueryFlow.Proofs.Lineage.Answers

/-!
Searches along the edges in graphs of any shape. Edges may lead in circles, stand twice or start at
no node, and a search keeps no record of where it has been. It is still exact: it finds a source
just when a table above lists a column of a suitable name, since a way without repetitions is no
longer than the list of nodes. Which of several tables is found is not asserted, for in a circle
this depends on the limit.
-/

namespace QueryFlow

open Lineage Relation

/-- The column has the name of the searched column or of its source. -/
def ColumnRef.Suits (found col : ColumnRef) : Prop :=
  found.name = col.name ∨ some found.name = col.sourceColumn

/-- Of the columns that the table lists, this is the first one that suits. -/
def TableSource.FirstSuited (t : TableSource) (col found : ColumnRef) : Prop :=
  ∃ front back, t.columns = front ++ found :: back ∧ found.Suits col ∧ ∀ c ∈ front, ¬ c.Suits col

namespace Graph

variable {g : Graph} {ids : List String} {a b p v : String}

/-- Rows flow directly from one of these ids into the other id. -/
def FlowsFrom (g : Graph) (ids : List String) (a b : String) : Prop := a ∈ ids ∧ g.Flows a b

/-- Rows flow directly from a node of the graph. -/
def Feeds (g : Graph) (a b : String) : Prop := g.FlowsFrom g.ids a b

/-- A way can be cut at its first arrival at an id, and so it need not start a step there. -/
theorem flowsFrom_erase (h : TransGen (g.FlowsFrom ids) a b) (other : a ≠ p) :
    TransGen (g.FlowsFrom (ids.erase p)) a b ∨ TransGen (g.FlowsFrom (ids.erase p)) a p := by
  induction h with
  | single first =>
    have kept : a ∈ ids.erase p := (List.mem_erase_of_ne other).mpr first.1
    exact Or.inl (.single ⟨kept, first.2⟩)
  | @tail b c _ next ih =>
    rcases ih with way | arrived
    · by_cases here : b = p
      · subst here
        exact Or.inr way
      · have kept : b ∈ ids.erase p := (List.mem_erase_of_ne here).mpr next.1
        exact Or.inl (way.tail ⟨kept, next.2⟩)
    · exact Or.inr arrived

theorem flowsFrom_erase_end (h : TransGen (g.FlowsFrom ids) a p) (other : a ≠ p) :
    TransGen (g.FlowsFrom (ids.erase p)) a p :=
  (flowsFrom_erase h other).elim id id

end Graph

namespace Lineage

variable {g : Graph} {c : Chart} {col found : ColumnRef} {t : TableSource} {fuel : Nat}
  {v p : String}

theorem suits_iff : found.Suits col ↔
    (found.name == col.name || some found.name == col.sourceColumn) = true := by
  rw [ColumnRef.Suits, Bool.or_eq_true, beq_iff_eq, beq_iff_eq]

theorem listed?_eq_some_iff : listed? t col = some found ↔ t.FirstSuited col found := by
  rw [listed?, List.find?_eq_some_iff_append, TableSource.FirstSuited]
  simp only [suits_iff, Bool.not_eq_eq_eq_not, Bool.not_true, Bool.not_eq_true]
  constructor
  · rintro ⟨suits, front, back, split, none⟩
    exact ⟨front, back, split, suits, none⟩
  · rintro ⟨front, back, split, suits, none⟩
    exact ⟨suits, front, back, split, none⟩

theorem exists_listed?_iff :
    (∃ found, listed? t col = some found) ↔ ∃ found ∈ t.columns, found.Suits col := by
  rw [← Option.isSome_iff_exists, listed?, List.find?_isSome]
  simp only [suits_iff]

theorem Chart.mem_parents : p ∈ (Chart.ofGraph g).parents v ↔ g.Flows p v := by
  simp only [parents, List.mem_map, List.mem_filter, beq_iff_eq, Graph.Flows]
  constructor
  · rintro ⟨e, ⟨he, target⟩, source⟩
    exact ⟨e, he, source, target⟩
  · rintro ⟨e, he, source, target⟩
    exact ⟨e, ⟨he, target⟩, source⟩

theorem Chart.lookup_eq_some (distinct : g.ids.Nodup) {n : Node}
    (h : (Chart.ofGraph g).nodes.lookup p = some n) : n ∈ g.nodes ∧ n.id = p := by
  obtain ⟨front, back, split, _⟩ := List.lookup_eq_some_iff.mp h
  have mem : (p, n) ∈ (Chart.ofGraph g).nodes := by simp [split]
  rw [Chart.ofGraph_nodes distinct] at mem
  obtain ⟨m, hm, same⟩ := List.mem_map.mp mem
  obtain ⟨rfl, rfl⟩ := Prod.mk.inj same
  exact ⟨hm, rfl⟩

/-- A candidate that has a source is enough. -/
theorem firstFound_ne_nil {α : Type} {search : α → Trail} {xs : List α} {x : α} (hx : x ∈ xs)
    (found : (search x).sources ≠ []) : (firstFound search xs).sources ≠ [] := by
  induction xs with
  | nil => cases hx
  | cons y rest ih =>
    rw [firstFound]
    by_cases empty : (search y).sources.isEmpty = true
    · have later : x ∈ rest := by
        rcases List.mem_cons.mp hx with rfl | later
        · exact absurd (List.isEmpty_iff.mp empty) found
        · exact later
      simpa only [empty, if_true] using ih later
    · have here : (search y).sources ≠ [] := fun none => empty (List.isEmpty_iff.mpr none)
      simpa only [empty, if_false, Bool.false_eq_true] using here

/-- What is found above a node is listed by a table directly above it, or found above such a
node. -/
theorem above_sources {search : String → Trail} (found : (above c search col v).sources ≠ []) :
    ∃ p ∈ c.parents v, ∃ n, c.nodes.lookup p = some n ∧
      ((∃ t first, n.data = .table t ∧ listed? t col = some first ∧
          (above c search col v).sources = [⟨t.table, first.name⟩]) ∨
        (above c search col v).sources = (search p).sources) := by
  rcases firstFound_sources _ (c.parents v) with nothing | ⟨p, hp, same⟩
  · exact absurd nothing found
  · rw [above] at found ⊢
    rw [same] at found ⊢
    refine ⟨p, hp, ?_⟩
    cases hn : c.nodes.lookup p with
    | none => simp [hn] at found
    | some n =>
      refine ⟨n, rfl, ?_⟩
      cases data : n.data with
      | table t =>
        cases listed : listed? t col with
        | some first => exact Or.inl ⟨t, first, rfl, listed, by simp only [data, listed]⟩
        | none => exact Or.inr (by simp only [data, listed])
      | _ => exact Or.inr (by simp only [data])

/-- A table directly above a node, or a source that is found above such a node, is enough. -/
theorem above_ne_nil {search : String → Trail} {n : Node} (hp : p ∈ c.parents v)
    (hn : c.nodes.lookup p = some n)
    (found : (∃ t first, n.data = .table t ∧ listed? t col = some first) ∨
      (search p).sources ≠ []) : (above c search col v).sources ≠ [] := by
  refine firstFound_ne_nil hp ?_
  simp only [hn]
  rcases found with ⟨t, first, data, listed⟩ | below
  · simp [data, listed]
  · split
    · split
      · exact List.cons_ne_nil _ _
      · exact below
    · exact below

/-- What is found along the edges is listed by a table above. -/
theorem climb_sound (distinct : g.ids.Nodup)
    (found : (climb (.ofGraph g) col fuel v).sources ≠ []) :
    ∃ u ∈ g.nodes, ∃ t first, u.data = .table t ∧ TransGen g.Feeds u.id v ∧
      t.FirstSuited col first ∧
      (climb (.ofGraph g) col fuel v).sources = [⟨t.table, first.name⟩] := by
  induction fuel generalizing v with
  | zero => exact absurd rfl found
  | succ fuel ih =>
    obtain ⟨p, hp, n, hn, here | higher⟩ := above_sources found
    all_goals
      obtain ⟨mem, same⟩ := Chart.lookup_eq_some distinct hn
      have feeds : g.Feeds p v := ⟨same ▸ List.mem_map_of_mem mem, Chart.mem_parents.mp hp⟩
    · obtain ⟨t, first, data, listed, sources⟩ := here
      subst same
      exact ⟨n, mem, t, first, data, .single feeds, listed?_eq_some_iff.mp listed, sources⟩
    · rw [climb, higher] at found ⊢
      obtain ⟨u, hu, t, first, data, way, listed, sources⟩ := ih found
      exact ⟨u, hu, t, first, data, way.tail feeds, listed, sources⟩

/-- A search along the edges that may go as deep as there are ids to pass finds something if a
table above lists a suitable column. -/
theorem climb_complete (distinct : g.ids.Nodup) {ids : List String} (nodes : ids ⊆ g.ids)
    (room : ids.length ≤ fuel) {u : Node} (hu : u ∈ g.nodes) (data : u.data = .table t)
    (lists : ∃ first, listed? t col = some first)
    (way : TransGen (g.FlowsFrom ids) u.id v) : (climb (.ofGraph g) col fuel v).sources ≠ [] := by
  -- The last id in front of `v` is not needed on the way to itself, so it is left out from there.
  induction fuel generalizing ids v with
  | zero =>
    obtain ⟨_, first, _⟩ := TransGen.head'_iff.mp way
    have none : ids = [] := List.eq_nil_of_length_eq_zero (Nat.le_zero.mp room)
    have start : u.id ∈ ids := first.1
    simp [none] at start
  | succ fuel ih =>
    obtain ⟨p, front, hp, flows⟩ := TransGen.tail'_iff.mp way
    obtain ⟨n, hn, rfl⟩ := List.mem_map.mp (nodes hp)
    refine above_ne_nil (Chart.mem_parents.mpr flows) (Chart.lookup_ofGraph distinct hn) ?_
    by_cases here : u.id = n.id
    · obtain rfl : u = n := List.inj_on_of_nodup_map distinct hu hn here
      obtain ⟨first, listed⟩ := lists
      exact Or.inl ⟨t, first, data, listed⟩
    · have higher : TransGen (g.FlowsFrom ids) u.id n.id :=
        (reflTransGen_iff_eq_or_transGen.mp front).resolve_left (Ne.symm here)
      have less : (ids.erase n.id).length ≤ fuel := by
        rw [List.length_erase_of_mem hp]
        omega
      have fewer : ids.erase n.id ⊆ g.ids := fun _ hx => nodes (List.mem_of_mem_erase hx)
      exact Or.inr (ih fewer less (Graph.flowsFrom_erase_end higher here))

/-- A column that names no table names no origin. -/
theorem origin?_eq_none (unnamed : given? col.sourceTable = none) : origin? c col = none := by
  simp only [origin?, unnamed]

end Lineage

namespace Graph

variable {g : Graph} {col : ColumnRef}

/-- In a graph with distinct ids the search for a column that names no table ends, and in one way.
It finds a source exactly when a table from which rows get to the node lists a column that suits,
and the source is then the first such column of such a table. No search with another limit finds a
source where this one finds none. -/
theorem climb_exact (distinct : g.ids.Nodup) (unnamed : given? col.sourceTable = none)
    (v : String) :
    ∃ trail, (∀ t, Ends (.ofGraph g) g.nodes.length 0 col v t ↔ t = trail) ∧
      (trail.sources ≠ [] ↔ ∃ u ∈ g.nodes, ∃ t, u.data = .table t ∧ TransGen g.Feeds u.id v ∧
        ∃ found ∈ t.columns, found.Suits col) ∧
      (trail.sources ≠ [] → ∃ u ∈ g.nodes, ∃ t found, u.data = .table t ∧
        TransGen g.Feeds u.id v ∧ t.FirstSuited col found ∧
        trail.sources = [⟨t.table, found.name⟩]) ∧
      ∀ cap t, Ends (.ofGraph g) cap 0 col v t → t.sources ≠ [] → trail.sources ≠ [] := by
  have climbs (fuel : Nat) : trace (.ofGraph g) fuel col v = climb (.ofGraph g) col fuel v :=
    trace_of_no_origin (origin?_eq_none unnamed)
  have complete (u : Node) (hu : u ∈ g.nodes) (t : TableSource) (data : u.data = .table t)
      (way : TransGen g.Feeds u.id v) (lists : ∃ found ∈ t.columns, found.Suits col) :
      (climb (.ofGraph g) col (g.nodes.length + 1) v).sources ≠ [] := by
    have room : g.ids.length ≤ g.nodes.length + 1 := by simp [Graph.ids]
    exact climb_complete distinct (List.Subset.refl _) room hu data (exists_listed?_iff.mpr lists)
      way
  refine ⟨climb (.ofGraph g) col (g.nodes.length + 1) v, fun t => ?_, ⟨fun found => ?_, ?_⟩,
    climb_sound distinct, fun cap t ends found => ?_⟩
  · rw [ends_iff, climbs]
    rfl
  · obtain ⟨u, hu, t, first, data, way, listed, _⟩ := climb_sound distinct found
    exact ⟨u, hu, t, data, way,
      exists_listed?_iff.mp ⟨first, listed?_eq_some_iff.mpr listed⟩⟩
  · rintro ⟨u, hu, t, data, way, lists⟩
    exact complete u hu t data way lists
  · rw [ends_iff, climbs] at ends
    subst ends
    obtain ⟨u, hu, t, first, data, way, listed, _⟩ := climb_sound distinct found
    exact complete u hu t data way
      (exists_listed?_iff.mp ⟨first, listed?_eq_some_iff.mpr listed⟩)

/-- A filter that is fed by itself, by a node that is not there and, twice, by a table, which it
feeds in turn. -/
def circle : Graph where
  nodes := [
    ⟨"table_0", .table ⟨"users", some "u", [{ name := "id" }, { name := "name" }], 0⟩, none⟩,
    ⟨"filter_1", .filter ⟨"id > 0"⟩, none⟩]
  edges := [⟨"e_1", "filter_1", "filter_1", none, none, none⟩,
    ⟨"e_2", "gone", "filter_1", none, none, none⟩, ⟨"e_3", "table_0", "filter_1", none, none, none⟩,
    ⟨"e_4", "table_0", "filter_1", none, none, none⟩,
    ⟨"e_5", "filter_1", "table_0", none, none, none⟩]

/-- The name is found behind the turns of the filter around itself. -/
theorem climb_exact_circle :
    circle.ids.Nodup ∧ given? ({ name := "name" } : ColumnRef).sourceTable = none ∧
      ∃ trail, (∀ t, Ends (.ofGraph circle) 2 0 { name := "name" } "filter_1" t ↔ t = trail) ∧
        trail.sources = [⟨"users", "name"⟩] := by
  have distinct : circle.ids.Nodup := by decide
  obtain ⟨trail, ends, found, exact_source, _⟩ :=
    @climb_exact circle { name := "name" } distinct rfl "filter_1"
  have way : TransGen circle.Feeds "table_0" "filter_1" :=
    .single ⟨by decide, ⟨"e_3", "table_0", "filter_1", none, none, none⟩, by decide, rfl, rfl⟩
  have some_source : trail.sources ≠ [] :=
    found.mpr ⟨_, List.mem_cons_self, _, rfl, way, { name := "name" }, by decide, Or.inl rfl⟩
  obtain ⟨u, hu, t, first, data, _, ⟨_, _, _, suits, _⟩, sources⟩ :=
    exact_source some_source
  refine ⟨distinct, rfl, trail, ends, ?_⟩
  have table : t.table = "users" := by
    rcases List.mem_pair.mp hu with rfl | rfl
    · cases data
      rfl
    · cases data
  have name : first.name = "name" := suits.resolve_right (Option.some_ne_none _)
  rw [sources, table, name]

end Graph

end QueryFlow
