import QueryFlow.Proofs.Graph.Order
import QueryFlow.Proofs.Lineage.Search

/-!
What flows into a node, as a tree of its own. A search along the edges above a node is the same
search in the tree, step for step. With enough fuel it takes the first of the listed columns that
goes by the name of the searched column or of its source. That a node has such a tree is assumed
here; for graphs of queries it is shown elsewhere.
-/

namespace QueryFlow

/-- What the rows at a node are made of. -/
inductive Inflow where
  /-- A step without input. -/
  | nothing
  /-- A table, with the columns that it lists. -/
  | table (columns : List LineageSource)
  /-- A step with one input. -/
  | step (input : Inflow)
  /-- A step with two inputs. -/
  | join (left right : Inflow)
  deriving Repr, DecidableEq

/-- The columns that a table lists, with the table's name. -/
def TableSource.listing (t : TableSource) : List LineageSource :=
  t.columns.map fun c => ⟨t.table, c.name⟩

/-- The listed column has the name of the searched column or of its source. -/
def ColumnRef.answeredBy (col : ColumnRef) (s : LineageSource) : Bool :=
  s.column == col.name || some s.column == col.sourceColumn

theorem ColumnRef.listed?_map (col : ColumnRef) (t : TableSource) :
    (Lineage.listed? t col).map (fun c => ⟨t.table, c.name⟩) = t.listing.find? col.answeredBy := by
  rw [TableSource.listing, List.find?_map]
  rfl

namespace Inflow

/-- What flows in directly. -/
def inputs : Inflow → List Inflow
  | nothing => []
  | table _ => []
  | step f => [f]
  | join l r => [l, r]

/-- The columns that the node lists itself. -/
def own : Inflow → List LineageSource
  | table columns => columns
  | _ => []

/-- All listed columns, from left to right. -/
def listed : Inflow → List LineageSource
  | nothing => []
  | table columns => columns
  | step f => f.listed
  | join l r => l.listed ++ r.listed

/-- The number of steps on the longest way up. -/
def depth : Inflow → Nat
  | nothing => 0
  | table _ => 0
  | step f => f.depth + 1
  | join l r => max l.depth r.depth + 1

variable {f : Inflow}

theorem listed_eq (f : Inflow) : f.listed = f.own ++ f.inputs.flatMap listed := by
  cases f <;> simp [listed, own, inputs]

theorem depth_lt_of_mem {input : Inflow} (h : input ∈ f.inputs) : input.depth < f.depth := by
  cases f with
  | nothing => simp [inputs] at h
  | table columns => simp [inputs] at h
  | step g =>
    rw [inputs, List.mem_singleton] at h
    subst h
    exact Nat.lt_succ_self _
  | join l r =>
    simp only [inputs, List.mem_cons, List.not_mem_nil, or_false] at h
    rcases h with rfl | rfl <;> simp only [depth] <;> omega

/-- Look at the columns of an input first, and search it after that. -/
def attempt (col : ColumnRef) (search : Inflow → Lineage.Trail) (f : Inflow) : Lineage.Trail :=
  match f.own.find? col.answeredBy with
  | some s => ⟨[s], []⟩
  | none => search f

/-- Search for a column in what flows in. -/
def climb (col : ColumnRef) : Nat → Inflow → Lineage.Trail
  | 0, _ => ⟨[], [col.name]⟩
  | fuel + 1, f => Lineage.firstFound (attempt col (climb col fuel)) f.inputs

end Inflow

namespace Lineage

variable {α β : Type} {search search' : α → Trail}

theorem firstFound_congr {other : β → Trail} {xs : List α} {ys : List β}
    (h : List.Forall₂ (fun x y => search x = other y) xs ys) :
    firstFound search xs = firstFound other ys := by
  induction h with
  | nil => rfl
  | cons head _ ih => simp only [firstFound, head, ih]

/-- Searches in lists, one list after the other, are one search in all of them. -/
theorem firstFound_find? {is : LineageSource → Bool} {listed : α → List LineageSource}
    {xs : List α} (h : ∀ x ∈ xs, search x = ⟨((listed x).find? is).toList, []⟩) :
    firstFound search xs = ⟨((xs.flatMap listed).find? is).toList, []⟩ := by
  induction xs with
  | nil => rfl
  | cons x rest ih =>
    have tail := ih fun y hy => h y (List.mem_cons_of_mem x hy)
    rw [firstFound, h x List.mem_cons_self, List.flatMap_cons, List.find?_append]
    cases (listed x).find? is with
    | some s => rfl
    | none => simp [tail]

/-- A search that is not cut off stays as it is when each of its parts does. -/
theorem firstFound_stable {xs : List α} (whole : (firstFound search xs).cut = [])
    (h : ∀ x ∈ xs, (search x).cut = [] → search' x = search x) :
    firstFound search' xs = firstFound search xs := by
  induction xs with
  | nil => rfl
  | cons x rest ih =>
    have first := h x List.mem_cons_self
    rw [firstFound] at whole ⊢
    by_cases empty : (search x).sources.isEmpty = true
    · simp only [empty, if_true, List.append_eq_nil_iff] at whole
      have tail := ih whole.2 fun y hy => h y (List.mem_cons_of_mem x hy)
      simp only [first whole.1, empty, if_true, firstFound, tail]
    · simp only [empty, if_false, Bool.false_eq_true] at whole
      simp only [first whole, empty, if_false, firstFound, Bool.false_eq_true]

end Lineage

namespace Inflow

variable {f : Inflow} {col : ColumnRef} {fuel : Nat}

/-- With enough fuel the first listed column that answers is found. -/
theorem climb_of_depth_lt (h : f.depth < fuel) :
    f.climb col fuel = ⟨((f.inputs.flatMap listed).find? col.answeredBy).toList, []⟩ := by
  induction fuel generalizing f with
  | zero => omega
  | succ fuel ih =>
    refine Lineage.firstFound_find? fun input hi => ?_
    have deep := ih (Nat.lt_of_lt_of_le (depth_lt_of_mem hi) (Nat.le_of_lt_succ h))
    rw [attempt, listed_eq input, List.find?_append]
    cases input.own.find? col.answeredBy with
    | some s => rfl
    | none => exact deep

/-- More fuel does not change a search that is not cut off. -/
theorem climb_succ (h : (f.climb col fuel).cut = []) :
    f.climb col (fuel + 1) = f.climb col fuel := by
  induction fuel generalizing f with
  | zero => simp [climb] at h
  | succ fuel ih =>
    refine Lineage.firstFound_stable h fun input _ hi => ?_
    unfold attempt at hi ⊢
    cases hf : input.own.find? col.answeredBy with
    | some s => rfl
    | none =>
      rw [hf] at hi
      exact ih hi

end Inflow

namespace Graph

/-- The nodes from which rows flow directly into a node. -/
def feeders (g : Graph) (id : String) : List String := (g.incoming id).map (·.source)

/-- The rows at a node are made of this. -/
inductive Yields (g : Graph) : String → Inflow → Prop where
  | nothing {n : Node} (mem : n ∈ g.nodes) (plain : n.table? = none) (fed : g.feeders n.id = []) :
      Yields g n.id .nothing
  | table {n : Node} {t : TableSource} (mem : n ∈ g.nodes) (data : n.table? = some t)
      (fed : g.feeders n.id = []) : Yields g n.id (.table t.listing)
  | step {n : Node} {p : String} {f : Inflow} (mem : n ∈ g.nodes) (plain : n.table? = none)
      (fed : g.feeders n.id = [p]) (input : Yields g p f) : Yields g n.id (.step f)
  | join {n : Node} {p q : String} {l r : Inflow} (mem : n ∈ g.nodes) (plain : n.table? = none)
      (fed : g.feeders n.id = [p, q]) (left : Yields g p l) (right : Yields g q r) :
      Yields g n.id (.join l r)

variable {g : Graph} {id : String} {f : Inflow}

theorem Yields.node (h : g.Yields id f) :
    ∃ n ∈ g.nodes, n.id = id ∧ f.own = (n.table?.map TableSource.listing).getD [] := by
  cases h with
  | nothing mem plain _ => exact ⟨_, mem, rfl, by simp [plain, Inflow.own]⟩
  | table mem data _ => exact ⟨_, mem, rfl, by simp [data, Inflow.own]⟩
  | step mem plain _ _ => exact ⟨_, mem, rfl, by simp [plain, Inflow.own]⟩
  | join mem plain _ _ _ => exact ⟨_, mem, rfl, by simp [plain, Inflow.own]⟩

theorem Yields.inputs (h : g.Yields id f) : List.Forall₂ g.Yields (g.feeders id) f.inputs := by
  cases h with
  | nothing _ _ fed => rw [fed]; exact .nil
  | table _ _ fed => rw [fed]; exact .nil
  | step _ _ fed input => rw [fed]; exact .cons input .nil
  | join _ _ fed left right => rw [fed]; exact .cons left (.cons right .nil)

theorem flows_of_mem_feeders {p : String} (h : p ∈ g.feeders id) : g.Flows p id := by
  obtain ⟨e, he, rfl⟩ := List.mem_map.mp h
  obtain ⟨he, ht⟩ := List.mem_filter.mp he
  exact ⟨e, he, rfl, by simpa using ht⟩

/-- The way up is no longer than the list of nodes in front. -/
theorem Yields.depth_le_place (forward : g.Forward) (h : g.Yields id f) :
    f.depth ≤ g.place id := by
  induction h with
  | nothing _ _ _ => exact Nat.zero_le _
  | table _ _ _ => exact Nat.zero_le _
  | @step n p _ _ _ fed _ ih =>
    have up : p ∈ g.feeders n.id := by simp [fed]
    exact Nat.lt_of_le_of_lt ih (forward.flows_lt (flows_of_mem_feeders up)).1
  | @join n p q _ _ _ _ fed _ _ left right =>
    have up : p ∈ g.feeders n.id ∧ q ∈ g.feeders n.id := by simp [fed]
    have first := (forward.flows_lt (flows_of_mem_feeders up.1)).1
    have second := (forward.flows_lt (flows_of_mem_feeders up.2)).1
    simp only [Inflow.depth]
    omega

theorem Yields.place_lt (h : g.Yields id f) : g.place id < g.nodes.length := by
  obtain ⟨n, hn, rfl, _⟩ := h.node
  have := List.idxOf_lt_length_iff.mpr (List.mem_map_of_mem (f := (·.id)) hn)
  simpa [place, ids] using this

theorem Yields.depth_lt (forward : g.Forward) (h : g.Yields id f) :
    f.depth < g.nodes.length :=
  Nat.lt_of_le_of_lt (h.depth_le_place forward) h.place_lt

end Graph

namespace Lineage

variable {g : Graph} {col : ColumnRef} {id : String} {f : Inflow}

theorem Chart.lookup_ofGraph (h : g.ids.Nodup) {n : Node} (hn : n ∈ g.nodes) :
    (Chart.ofGraph g).nodes.lookup n.id = some n := by
  rw [Chart.ofGraph_nodes h]
  unfold Graph.ids at h
  generalize g.nodes = nodes at h hn
  induction nodes with
  | nil => cases hn
  | cons m rest ih =>
    rw [List.map_cons, List.nodup_cons] at h
    rcases List.mem_cons.mp hn with rfl | hn
    · simp
    · have other : n.id ≠ m.id := fun same => h.1 (same ▸ List.mem_map_of_mem hn)
      have hb : (n.id == m.id) = false := by simp [other]
      simp only [List.map_cons, List.lookup_cons, hb, ih h.2 hn]

/-- A search in the graph and a search in what flows into a node are one search. -/
theorem climb_eq (h : g.ids.Nodup) {fuel : Nat} (hy : g.Yields id f) :
    climb (.ofGraph g) col fuel id = f.climb col fuel := by
  induction fuel generalizing id f with
  | zero => rfl
  | succ fuel ih =>
    refine firstFound_congr (hy.inputs.imp fun p input hp => ?_)
    obtain ⟨n, hn, rfl, own⟩ := hp.node
    have up := ih hp
    rw [Inflow.attempt, own, Chart.lookup_ofGraph h hn]
    cases hd : n.data with
    | table t =>
      simp only [Node.table?, hd, Option.map_some, Option.getD_some, ← ColumnRef.listed?_map]
      cases listed? t col with
      | some c => rfl
      | none => exact up
    | _ => simpa [Node.table?, hd] using up

end Lineage

end QueryFlow
