import QueryFlow.Graph.Integrity
import Mathlib.Logic.Relation

/-!
Graphs whose edges all lead forward in the list of nodes. Such a graph has no cycle, and a path
visits each place of the list at most once. Ids need not be distinct for this: the place of an
id is that of the first node that has it.
-/

namespace QueryFlow.Graph

variable {g : Graph}

/-- The place of the first node with this id. -/
def place (g : Graph) (id : String) : Nat := g.ids.idxOf id

/-- Rows flow directly from one node to the other. -/
def Flows (g : Graph) (a b : String) : Prop := ∃ e ∈ g.edges, e.source = a ∧ e.target = b

/-- This many edges, one behind the other, lead from one node to the other. -/
inductive Path (g : Graph) : String → String → Nat → Prop where
  | nil (a : String) : Path g a a 0
  | snoc {a b c : String} {n : Nat} : Path g a b n → g.Flows b c → Path g a c (n + 1)

/-- Every edge leads from a node to a later node. -/
def Forward (g : Graph) : Prop :=
  ∀ e ∈ g.edges, g.place e.source < g.place e.target ∧ g.place e.target < g.nodes.length

theorem Forward.flows_lt (h : g.Forward) {a b : String} (hab : g.Flows a b) :
    g.place a < g.place b ∧ g.place b < g.nodes.length := by
  obtain ⟨e, he, rfl, rfl⟩ := hab
  exact h e he

theorem Forward.reach_lt (h : g.Forward) {a b : String}
    (hab : Relation.TransGen g.Flows a b) : g.place a < g.place b := by
  induction hab with
  | single hb => exact (h.flows_lt hb).1
  | tail _ hc ih => exact Nat.lt_trans ih (h.flows_lt hc).1

theorem Forward.acyclic (h : g.Forward) (a : String) : ¬ Relation.TransGen g.Flows a a :=
  fun ha => Nat.lt_irrefl _ (h.reach_lt ha)

/-- Every edge of a path moves at least one place on. -/
theorem Forward.path_place (h : g.Forward) {a b : String} {n : Nat} (path : g.Path a b n) :
    g.place a + n ≤ g.place b := by
  induction path with
  | nil => exact Nat.le_refl _
  | snoc _ hc ih =>
    have := (h.flows_lt hc).1
    omega

theorem Forward.path_length_le (h : g.Forward) {a b : String} {n : Nat} (path : g.Path a b n) :
    n ≤ g.nodes.length - 1 := by
  have hn := h.path_place path
  cases path with
  | nil => exact Nat.zero_le _
  | snoc _ hc =>
    have := (h.flows_lt hc).2
    omega

end QueryFlow.Graph
