import QueryFlow.Proofs.Builder.Sources
import Mathlib.Algebra.Ring.Nat

/-!
How many nodes a query has. Apart from its tables, a SELECT adds one node for each joined entry but
the first, one for WHERE and one for GROUP BY; a named query adds its frame and its result, a main
query its output.
-/

namespace QueryFlow

/-- The number of joins, filters and aggregations of a SELECT. -/
def Selection.steps (s : Selection) : Nat :=
  s.entries.tail.countP (·.join.isSome) + (if s.condition.isSome then 1 else 0)
    + if s.groupBy.isEmpty then 0 else 1

theorem Selection.steps_eq (s : Selection) :
    s.steps = s.entries.tail.countP (·.join.isSome) + s.stepKinds.length := by
  rw [steps, stepKinds, List.length_append, Nat.add_assoc]
  cases s.condition.isSome <;> cases s.groupBy.isEmpty <;> rfl

namespace Builder

/-- The number of nodes that a call adds besides tables. -/
def Call.steps : Call → Nat
  | .named _ s => s.steps + 2
  | .main s => s.steps + 1

variable {ctx : BuildContext} {b : Builder} {d : Sql.Dialect}
  {meaning : String → Option String} {parent : Option String} {links : List Link} {p : Part}

/-- Behind the start of a chain, each joined entry adds one join. -/
theorem Linked.length_joins {left : String} (h : Linked d meaning parent (some left) links) :
    (links.flatMap (·.join.toList)).length = (links.map (·.entry)).countP (·.join.isSome) := by
  induction links generalizing left with
  | nil => rfl
  | cons l rest ih =>
    cases h with
    | cons _ join others =>
      have same : l.entry.join.isSome = l.join.isSome :=
        Bool.eq_iff_iff.mpr join.isSome_iff.symm
      rw [List.flatMap_cons, List.length_append, ih others, List.map_cons, List.countP_cons, same]
      cases l.join <;> simp [Nat.add_comm]

/-- The first entry has nothing to be joined with. -/
theorem Linked.length_joins_start (h : Linked d meaning parent none links) :
    (links.flatMap (·.join.toList)).length = (links.map (·.entry)).tail.countP (·.join.isSome) := by
  cases h with
  | nil => rfl
  | cons _ join others =>
    rcases join.cases with none | ⟨_, _, front, _⟩
    · simp [none, others.length_joins]
    · cases front

theorem Link.length_nodes (links : List Link) : (links.flatMap Link.nodes).length =
    (links.flatMap (·.input.node?.toList)).length + (links.flatMap (·.join.toList)).length := by
  induction links with
  | nil => rfl
  | cons l rest ih =>
    simp only [List.flatMap_cons, List.length_append, ih, Link.nodes]
    omega

theorem Part.Fits.length_tables (h : p.Fits ctx meaning) : p.tables.length =
    (p.call.body.entries.filter fun e => (meaning e.table).isNone).length := by
  have all : (p.tables.filterMap Node.table?).length = p.tables.length := by
    refine List.filterMap_length_eq_length.mpr fun n hn => Option.isSome_iff_ne_none.mpr ?_
    exact fun none => Node.table?_eq_none_iff.mp none (h.tables_kind n hn).1
  have size := congrArg List.length h.links.mentions
  rw [List.length_map, List.length_map, h.entries] at size
  exact all.symm.trans size

/-- A part has a node for each table and for each step of its call. -/
theorem Part.Fits.length_nodes (h : p.Fits ctx meaning) : p.nodes.length =
    (p.call.body.entries.filter fun e => (meaning e.table).isNone).length + p.call.steps := by
  have steps := congrArg List.length h.steps
  have frame : p.frame.toList.length + p.call.body.steps + 1 = p.call.steps := by
    have opens := h.frame
    cases hc : p.call <;> cases hf : p.frame <;> rw [hc, hf] at opens
    case named.none => exact opens.elim
    case named.some =>
      simp only [Call.steps, Call.body, Option.toList_some, List.length_singleton]
      omega
    case main.none => simp [Call.steps, Call.body]
    case main.some => exact opens.elim
  have links : (p.links.flatMap Link.nodes).length =
      p.tables.length + p.call.body.entries.tail.countP (·.join.isSome) := by
    rw [Link.length_nodes, h.links.length_joins_start, h.entries, Part.tables]
  rw [List.length_map] at steps
  rw [Selection.steps_eq] at frame
  simp only [Part.nodes, Part.inner, List.length_append, List.length_singleton, links,
    h.length_tables, steps]
  omega

variable (ctx b)

/-- A call adds its tables and its steps. -/
theorem take_length (call : Call) :
    (take ctx b call).nodes.length =
      b.nodes.length + (b.unbound call.body.entries).length + call.steps := by
  obtain ⟨p, rfl, gains⟩ := take_gains ctx b call
  rw [gains.nodes, List.length_append, gains.fits.length_nodes, Nat.add_assoc]
  rfl

/-- Apart from tables, calls add just their steps. -/
theorem foldl_length (calls : List Call) :
    (calls.foldl (take ctx) b).nodes.length + b.graph.tables.length =
      b.nodes.length + (calls.foldl (take ctx) b).graph.tables.length
        + (calls.map Call.steps).sum := by
  induction calls generalizing b with
  | nil => simp
  | cons call rest ih =>
    have tables := congrArg List.length (take_tables ctx b call)
    simp only [List.length_append, List.length_map] at tables
    have size := take_length ctx b call
    have tail := ih (take ctx b call)
    simp only [List.foldl_cons, List.map_cons, List.sum_cons]
    omega

theorem run_length (calls : List Call) :
    (run ctx calls).nodes.length =
      (tableEntries [] calls).length + (calls.map Call.steps).sum := by
  have tables := congrArg List.length (run_tables ctx calls)
  simp only [List.length_map] at tables
  have all := foldl_length ctx {} calls
  have start : ({} : Builder).graph.tables.length = 0 ∧ ({} : Builder).nodes.length = 0 :=
    ⟨rfl, rfl⟩
  unfold run at tables ⊢
  omega

/-- The entries that the first of two runs of calls reads from tables, and those of the second. -/
theorem tableEntries_append (names : List String) (calls more : List Call) :
    tableEntries names (calls ++ more) = tableEntries names calls
      ++ tableEntries (names ++ calls.flatMap (·.name?.toList)) more := by
  induction calls generalizing names with
  | nil => simp [tableEntries]
  | cons call rest ih => simp [tableEntries, ih, List.append_assoc]

theorem mem_tableEntries {e : FromEntry} {names : List String} {calls : List Call}
    (h : e ∈ tableEntries names calls) : ∃ call ∈ calls, e ∈ call.body.entries := by
  induction calls generalizing names with
  | nil => simp [tableEntries] at h
  | cons call rest ih =>
    rcases List.mem_append.mp h with here | later
    · exact ⟨call, List.mem_cons_self, (List.mem_filter.mp here).1⟩
    · obtain ⟨other, ho, he⟩ := ih later
      exact ⟨other, List.mem_cons_of_mem _ ho, he⟩

end Builder

namespace Query

variable (ctx : BuildContext) (q : Query)

/-- The named queries of a query as calls. -/
def namedCalls : List Builder.Call := q.bindings.map fun x => .named x.name x.body

theorem namedCalls_names : q.namedCalls.flatMap (·.name?.toList) = q.bindings.map (·.name) := by
  rw [namedCalls, List.flatMap_map, List.map_eq_flatMap]
  rfl

theorem tableEntries_eq : q.tableEntries = Builder.tableEntries [] q.namedCalls
    ++ q.body.entries.filter fun e => !(q.bindings.map (·.name)).contains e.table := by
  rw [tableEntries, calls, ← namedCalls, Builder.tableEntries_append, namedCalls_names]
  simp [Builder.tableEntries, Builder.Call.body]

/-- The number of nodes of a query's graph. -/
theorem graph_length : (q.graph ctx).nodes.length = q.tableEntries.length
    + (q.namedCalls.map Builder.Call.steps).sum + (q.body.steps + 1) := by
  have run : (q.graph ctx).nodes.length =
      q.tableEntries.length + (q.calls.map Builder.Call.steps).sum := by
    rw [graph, takeQuery_run]
    exact Builder.run_length ctx q.calls
  rw [run, calls, ← namedCalls, List.map_append, List.sum_append]
  simp [Builder.Call.steps, Nat.add_assoc]

end Query

end QueryFlow
