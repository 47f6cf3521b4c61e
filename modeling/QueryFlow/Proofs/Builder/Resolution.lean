import QueryFlow.Proofs.Builder.Chronicle
import QueryFlow.Proofs.Graph.Order

/-!
How the names in FROM clauses are resolved. An entry reads the result of the last query of its name
that was taken before its own, and only an entry without such a query adds a table. So a query does
not see its own name, nor one that is taken later. The main statement says this of every entry of
every run, together with the place that the rows of the entry go to.
-/

namespace QueryFlow

open Sql

namespace Builder

variable {ctx : BuildContext} {meaning : String → Option String} {name : String}
  {before : List Part} {p q : Part} {front back : List Link} {l : Link}

/-- Of some parts, this is the last one with the name. -/
def Part.Last (before : List Part) (name : String) (q : Part) : Prop :=
  ∃ older newer, before = older ++ q :: newer ∧ q.call.name? = some name ∧
    ∀ r ∈ newer, r.call.name? ≠ some name

theorem Part.Last.latest? (h : Part.Last before name q) :
    Part.latest? before name = some q.result.id := by
  obtain ⟨older, newer, rfl, hq, quiet⟩ := h
  have none : newer.reverse.find? (·.call.name? == some name) = none := by
    simpa using quiet
  simp [Part.latest?, List.find?_append, none, hq]

theorem Part.latest?_eq_none (h : ∀ q ∈ before, q.call.name? ≠ some name) :
    Part.latest? before name = none := by
  simpa [Part.latest?] using h

/-- How an entry is resolved behind some parts. -/
structure Link.Resolved (before : List Part) (l : Link) : Prop where
  /-- The last query of the name is read, and no node is added. -/
  named : ∀ q, Part.Last before l.entry.table q → l.input = .result q.result.id
  /-- Without such a query one node is added, for a table of the name. -/
  table : (∀ q ∈ before, q.call.name? ≠ some l.entry.table) →
    ∃ n t, l.input = .table n ∧ n.data = .table t ∧ t.table = l.entry.table ∧
      t.alias = l.entry.alias

theorem Input.Answers.resolved (h : l.input.Answers (Part.latest? before) p.parent l.entry) :
    l.Resolved before where
  named := by
    intro q last
    cases hi : l.input with
    | result id =>
      rw [hi] at h
      have meant : some q.result.id = some id := last.latest?.symm.trans h
      rw [Option.some.inj meant]
    | table n =>
      rw [hi] at h
      exact absurd (last.latest?.symm.trans h.1) (Option.some_ne_none _)
  table := by
    intro unknown
    cases hi : l.input with
    | result id =>
      rw [hi] at h
      exact absurd ((Part.latest?_eq_none unknown).symm.trans h) (Option.some_ne_none _).symm
    | table n =>
      rw [hi] at h
      obtain ⟨_, _, t, hd, mention⟩ := h
      obtain ⟨ht, ha⟩ := Prod.mk.inj mention
      exact ⟨n, t, rfl, hd, ht, ha⟩

/-- The node that the rows of an entry go to: its own join, or the join of the next entry, or the
next step. Rows in front of an entry that is not joined go nowhere. -/
def Part.next? (p : Part) (l : Link) (back : List Link) : Option String :=
  match l.join, back with
  | some j, _ => some j.id
  | none, m :: _ => m.join.map (·.id)
  | none, [] => (p.steps ++ [p.result]).head?.map (·.id)

/-- From what an entry reads an edge leads to where its rows go. -/
theorem Part.Fits.wire_next (h : p.Fits ctx meaning) (hs : p.links = front ++ l :: back)
    {next : String} (hn : p.next? l back = some next) :
    ∃ w ∈ p.wires, w.source = l.input.id ∧ w.target = next := by
  have linked := h.links
  rw [hs] at linked
  unfold Part.next? at hn
  split at hn
  case h_1 j hj =>
    cases hn
    cases linked.split.2 with
    | cons _ join _ =>
      rcases join.cases with none | ⟨left, k, hf, _⟩
      · simp [none] at hj
      · have wire : ⟨l.input.id, j.id, l.entry.join.map (·.columns)⟩ ∈ p.wires := by
          simp [Part.wires, hs, chainWires_append, chainWires, Link.wires, hf, hj]
        exact ⟨_, wire, rfl, rfl⟩
  case h_2 m rest hj =>
    obtain ⟨j, hm, rfl⟩ := Option.map_eq_some_iff.mp hn
    have wire : ⟨l.last, j.id, m.entry.join.map (·.columns)⟩ ∈ p.wires := by
      simp [Part.wires, hs, chainWires_append, chainWires, Link.wires, hm]
    exact ⟨_, wire, by simp [Link.last, hj], rfl⟩
  case h_3 hj =>
    obtain ⟨n, hhead, rfl⟩ := Option.map_eq_some_iff.mp hn
    obtain ⟨rest, steps⟩ := List.head?_eq_some_iff.mp hhead
    have wire : ⟨l.last, n.id, n.inputColumns⟩ ∈ p.wires := by
      simp [Part.wires, hs, chainEnd, steps, stepWires]
    exact ⟨_, wire, by simp [Link.last, hj], rfl⟩

theorem Chronicle.tables_eq {parts : List Part} (h : Chronicle ctx parts) :
    (run ctx (parts.map (·.call))).graph.nodes.filter (·.kind == .table) =
      parts.flatMap Part.tables := by
  rw [h.graph_nodes, List.filter_flatMap]
  refine List.flatMap_congr fun p hp => ?_
  obtain ⟨_, _, fits⟩ := h.fits_of_mem hp
  exact fits.tables_eq

/-- In every run, each entry reads the result of the last query of its name in front of its own
SELECT, or adds one table when there is none, and no other tables are added. An edge leads from
what it reads to where its rows go. -/
theorem entries_resolved_in_order (ctx : BuildContext) (calls : List Call) :
    ∃ parts, parts.map (·.call) = calls ∧ Chronicle ctx parts ∧
      (run ctx calls).graph.ids.Nodup ∧
      (run ctx calls).graph.nodes.filter (·.kind == .table) = parts.flatMap Part.tables ∧
      ∀ before p after, parts = before ++ p :: after →
        p.links.map (·.entry) = p.call.body.entries ∧
        ∀ front l back, p.links = front ++ l :: back → l.Resolved before ∧
          ∀ next, p.next? l back = some next →
            (run ctx calls).graph.Flows l.input.id next := by
  obtain ⟨parts, rfl, h⟩ := run_chronicle ctx calls
  refine ⟨parts, rfl, h, (run_sound ctx _).nodup_ids, h.tables_eq, fun before p after hs => ?_⟩
  have fits := h.fits_at hs
  refine ⟨fits.entries, fun front l back hl => ⟨?_, ?_⟩⟩
  · exact (fits.links.forall_mem l (by simp [hl])).1.resolved
  · intro next hn
    obtain ⟨w, hw, hsource, htarget⟩ := fits.wire_next hl hn
    exact h.flows_iff.mpr ⟨p, by simp [hs], w, hw, hsource, htarget⟩

end Builder

end QueryFlow
