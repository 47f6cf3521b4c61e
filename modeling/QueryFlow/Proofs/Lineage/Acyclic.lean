import QueryFlow.Proofs.Lineage.Reachable
import Mathlib.Data.List.Chain

/-!
The limit on the depth of searches, in graphs in which nothing leads back. A search goes on to the
named result that a column names as its source, or against the flow along the edges; once it has
taken an edge, the column names no result, and so no jump follows. Where neither edges nor such
names nor both together lead in a circle, all nodes on the way are different, so a search gets less
deep than there are nodes, and a higher limit changes nothing. Graphs in which names lead back are
not considered.
-/

namespace QueryFlow

open Lineage Relation

/-- The columns of an output or of the result of a named query. -/
def Node.exports (n : Node) : List ColumnRef :=
  match n.data with
  | .named r => r.columns
  | .output o => o.columns
  | _ => []

namespace Graph

/-- The node has this column in its output or result. -/
def Exports (g : Graph) (id : String) (col : ColumnRef) : Prop :=
  ∃ n ∈ g.nodes, n.id = id ∧ col ∈ n.exports

/-- A column of the second node has the name of the first, a named result, as its source. -/
def Supplies (g : Graph) (a b : String) : Prop :=
  ∃ m ∈ g.nodes, ∃ r, m.id = a ∧ m.data = .named r ∧
    ∃ col, g.Exports b col ∧ col.sourceTable = some r.name

/-- An edge leads from the first node to the second, or a name does. Edges from or to anything that
is not in the graph do not count. -/
def Leads (g : Graph) (a b : String) : Prop :=
  (g.Flows a b ∧ a ∈ g.ids ∧ b ∈ g.ids) ∨ g.Supplies a b

/-- The searches for all output columns under a limit on their depth. -/
def trailsWithin (g : Graph) (cap : Nat) : List (String × Trail) :=
  match output? g with
  | none => []
  | some (id, o) => o.columns.map fun col => (col.name, trace (.ofGraph g) (cap + 1) col id)

/-- The lineage under a limit on the depth of searches. -/
def lineageWithin (g : Graph) (cap : Nat) : List LineageEntry :=
  (g.trailsWithin cap).map fun (name, t) => ⟨name, t.sources⟩

/-- The limit is the number of nodes. -/
theorem lineageWithin_length (g : Graph) : g.lineageWithin g.nodes.length = g.lineage := rfl

/-- Nothing leads back where edges and names go up in rank. -/
theorem acyclic_of_rank {g : Graph} (rank : String → Nat)
    (flows : ∀ e ∈ g.edges, e.source ∈ g.ids → e.target ∈ g.ids → rank e.source < rank e.target)
    (supplies : ∀ m ∈ g.nodes, ∀ r ∈ m.result?, ∀ n ∈ g.nodes, ∀ col ∈ n.exports,
      col.sourceTable = some r.name → rank m.id < rank n.id) (id : String) :
    ¬ TransGen g.Leads id id := by
  have step : ∀ a b, g.Leads a b → rank a < rank b := by
    rintro a b (⟨⟨e, he, rfl, rfl⟩, source, target⟩ | ⟨m, hm, r, rfl, data, col, exports, named⟩)
    · exact flows e he source target
    · obtain ⟨n, hn, rfl, hc⟩ := exports
      have result : m.result? = some r := by rw [Node.result?, data]
      exact supplies m hm r result n hn col hc named
  have climbs : ∀ b, TransGen g.Leads id b → rank id < rank b := by
    intro b way
    induction way with
    | single first => exact step _ _ first
    | tail _ next ih => exact ih.trans (step _ _ next)
  exact fun circle => Nat.lt_irrefl _ (climbs id circle)

end Graph

namespace Lineage

/-- The searches that the search for a column at a node can lead to, with their depth. A search at a
depth beyond the limit goes on to no other. That a source may be found before a parent is searched
is left out of account. -/
inductive Called (c : Chart) (cap : Nat) (start : ColumnRef) (v : String) :
    Nat → ColumnRef → String → Prop where
  | start : Called c cap start v 0 start v
  | named {depth : Nat} {col inner : ColumnRef} {id node : String} {stand : LineageSource}
      (call : Called c cap start v depth col id) (within : depth ≤ cap)
      (origin : origin? c col = some (.named node (some inner) stand))
      (named : (given? inner.sourceColumn).isSome = true) :
      Called c cap start v (depth + 1) inner node
  | above {depth : Nat} {col : ColumnRef} {id p : String}
      (call : Called c cap start v depth col id) (within : depth ≤ cap)
      (origin : origin? c col = none) (parent : p ∈ c.parents id)
      (there : (c.nodes.lookup p).isSome = true) : Called c cap start v (depth + 1) col p

variable {g : Graph} {c : Chart} {cap depth fuel : Nat} {start col : ColumnRef} {v id : String}

/-- A column that names a named result has its name as the source, and goes on to its columns. -/
theorem of_origin?_named (distinct : g.ids.Nodup) {node : String} {inner : Option ColumnRef}
    {stand : LineageSource} (h : origin? (.ofGraph g) col = some (.named node inner stand)) :
    ∃ m ∈ g.nodes, ∃ r, m.id = node ∧ m.data = .named r ∧ col.sourceTable = some r.name ∧
      ∀ i ∈ inner, i ∈ r.columns := by
  unfold origin? at h
  split at h
  case h_2 => cases h
  case h_1 name column given _ =>
    cases table : (Chart.ofGraph g).table? name with
    | some t => simp [table] at h
    | none =>
      simp only [table, Option.map_eq_some_iff] at h
      obtain ⟨⟨at_node, r⟩, found, same⟩ := h
      cases same
      rw [Chart.named?_ofGraph distinct] at found
      obtain ⟨m, hm, rfl, data⟩ := Graph.mem_results.mp (List.mem_of_find?_eq_some found)
      have same : r.name = name := by simpa using List.find?_some found
      exact ⟨m, hm, r, rfl, data, same ▸ (given?_eq_some.mp given).1,
        fun i hi => List.mem_of_find?_eq_some hi⟩

/-- The nodes behind a search lead to each other. Its column is one of its node as long as no edge
was taken, and names no origin after that. -/
theorem Called.path (distinct : g.ids.Nodup) (first : g.Exports v start)
    (h : Called (.ofGraph g) cap start v depth col id) :
    (g.Exports id col ∨ origin? (.ofGraph g) col = none) ∧
      ∃ path, path.length = depth ∧ id :: path ⊆ g.ids ∧ (id :: path).IsChain g.Leads := by
  -- Only a column of its own node can name a result. Behind an edge `here` is left with its other
  -- side, which excludes the case `named`.
  induction h with
  | start =>
    obtain ⟨n, hn, rfl, exported⟩ := first
    have inside : n.id ∈ g.ids := List.mem_map_of_mem hn
    exact ⟨.inl ⟨n, hn, rfl, exported⟩, [], rfl, by simpa using inside, .singleton _⟩
  | @named _ _ inner before _ _ _ _ origin _ ih =>
    obtain ⟨m, hm, r, rfl, data, named, columns⟩ := of_origin?_named distinct origin
    obtain ⟨here, path, rfl, inside, chain⟩ := ih
    have exported := here.resolve_right (by simp [origin])
    have own : inner ∈ m.exports := by
      rw [Node.exports, data]
      exact columns inner rfl
    refine ⟨.inl ⟨m, hm, rfl, own⟩, before :: path, rfl, ?_, ?_⟩
    · exact List.cons_subset.mpr ⟨List.mem_map_of_mem hm, inside⟩
    · exact .cons_cons (.inr ⟨m, hm, r, rfl, data, _, exported, named⟩) chain
  | @above _ _ before _ _ _ origin parent there ih =>
    obtain ⟨_, path, rfl, inside, chain⟩ := ih
    obtain ⟨n, found⟩ := Option.isSome_iff_exists.mp there
    obtain ⟨mem, rfl⟩ := Chart.lookup_eq_some distinct found
    refine ⟨.inr origin, before :: path, rfl, ?_, ?_⟩
    · exact List.cons_subset.mpr ⟨List.mem_map_of_mem mem, inside⟩
    · have flows := Chart.mem_parents.mp parent
      have source : n.id ∈ g.ids := List.mem_map_of_mem mem
      exact .cons_cons (.inl ⟨flows, source, inside List.mem_cons_self⟩) chain

/-- No node comes twice on the way of a search, so there are more nodes than steps. -/
theorem Called.depth_lt (distinct : g.ids.Nodup) (acyclic : ∀ id, ¬ TransGen g.Leads id id)
    (first : g.Exports v start) (h : Called (.ofGraph g) cap start v depth col id) :
    depth < g.nodes.length := by
  obtain ⟨_, path, rfl, inside, chain⟩ := h.path distinct first
  have ways : (id :: path).Pairwise (TransGen g.Leads) :=
    (chain.imp fun _ _ => TransGen.single).pairwise
  have different : (id :: path).Nodup := ways.imp fun way => by
    rintro rfl
    exact acyclic _ way
  have fits : (id :: path).length ≤ g.ids.length := different.length_le_of_subset inside
  rwa [Graph.ids, List.length_map] at fits

theorem firstFound_uncut {α : Type} {search : α → Trail} {xs : List α}
    (h : ∀ x ∈ xs, (search x).cut = []) : (firstFound search xs).cut = [] := by
  induction xs with
  | nil => rfl
  | cons x rest ih =>
    obtain ⟨here, there⟩ := List.forall_mem_cons.mp h
    rw [firstFound]
    split
    · simp only [here, ih there, List.append_nil]
    · exact here

/-- A search is not cut off when none that it can lead to is too deep. -/
theorem Called.uncut (within : ∀ depth col id, Called c cap start v depth col id → depth ≤ cap)
    (h : Called c cap start v depth col id) : (trace c (cap + 1 - depth) col id).cut = [] := by
  -- A search that has no room left would stand one step beyond the limit.
  generalize room : cap + 1 - depth = fuel
  induction fuel generalizing depth col id with
  | zero =>
    have := within _ _ _ h
    omega
  | succ fuel ih =>
    have here := within _ _ _ h
    have less : cap + 1 - (depth + 1) = fuel := by omega
    rw [trace]
    cases origin : origin? c col with
    | none =>
      refine firstFound_uncut fun p hp => ?_
      cases there : c.nodes.lookup p with
      | none => rfl
      | some n =>
        have deeper := ih (h.above here origin hp (by rw [there]; rfl)) less
        simp only
        split
        · split
          · rfl
          · exact deeper
        · exact deeper
    | some o =>
      cases o with
      | table source => rfl
      | named node inner stand =>
        cases inner with
        | none => rfl
        | some inner =>
          simp only
          split
          · rfl
          · next named =>
            have given : (given? inner.sourceColumn).isSome = true := by
              simpa [Option.isSome_iff_ne_none] using named
            rw [orStand_cut]
            exact ih (h.named here origin given) less

/-- More room does not change a search that is not cut off. -/
theorem trace_succ (h : (trace c fuel col id).cut = []) :
    trace c (fuel + 1) col id = trace c fuel col id := by
  induction fuel generalizing col id with
  | zero => simp [trace] at h
  | succ fuel ih =>
    rw [trace] at h ⊢
    rw [trace]
    cases origin : origin? c col with
    | none =>
      simp only [origin] at h ⊢
      refine firstFound_stable h fun p _ hp => ?_
      cases there : c.nodes.lookup p with
      | none => rfl
      | some n =>
        simp only [there] at hp ⊢
        split at hp
        · split at hp
          · rfl
          · next none => simpa only [none] using ih hp
        · exact ih hp
    | some o =>
      cases o with
      | table source => rfl
      | named node inner stand =>
        cases inner with
        | none => rfl
        | some inner =>
          simp only [origin] at h ⊢
          split at h
          · next unnamed => simp only [unnamed, if_true]
          · next named =>
            rw [orStand_cut] at h
            simp only [named, if_false, Bool.false_eq_true, ih h]

theorem trace_mono {more : Nat} (le : fuel ≤ more) (h : (trace c fuel col id).cut = []) :
    trace c more col id = trace c fuel col id := by
  induction le with
  | refl => rfl
  | step _ ih => rw [trace_succ (ih ▸ h), ih]

end Lineage

namespace Graph

theorem exports_of_output? {g : Graph} {id : String} {output : Output}
    (h : output? g = some (id, output)) {col : ColumnRef} (hc : col ∈ output.columns) :
    g.Exports id col := by
  obtain ⟨n, hn, found⟩ := List.exists_of_findSome?_eq_some h
  cases data : n.data with
  | output o =>
    simp only [data, Option.some.injEq, Prod.mk.injEq] at found
    obtain ⟨rfl, rfl⟩ := found
    exact ⟨n, hn, rfl, by rwa [Node.exports, data]⟩
  | _ => simp [data] at found

/-- In a graph with distinct ids in which neither edges nor names of sources lead back, no search
for an output column, nor one that it leads to, gets as deep as there are nodes, whatever the limit
is. So nothing is cut off under any limit from the number of nodes on, and the lineage is the same
under all of them. -/
theorem limit_unreached (g : Graph) (distinct : g.ids.Nodup)
    (acyclic : ∀ id, ¬ TransGen g.Leads id id) :
    (∀ id output, output? g = some (id, output) → ∀ start ∈ output.columns,
      ∀ cap depth col at_node, Called (.ofGraph g) cap start id depth col at_node →
        depth < g.nodes.length) ∧
    ∀ cap, g.nodes.length ≤ cap →
      (∀ x ∈ g.trailsWithin cap, x.2.cut = []) ∧ g.lineageWithin cap = g.lineage := by
  have shallow : ∀ id output, output? g = some (id, output) → ∀ start ∈ output.columns,
      ∀ cap depth col at_node, Called (.ofGraph g) cap start id depth col at_node →
        depth < g.nodes.length := by
    intro id output found start hs cap depth col at_node called
    exact called.depth_lt distinct acyclic (exports_of_output? found hs)
  refine ⟨shallow, fun cap enough => ?_⟩
  rw [← lineageWithin_length, lineageWithin, lineageWithin, trailsWithin, trailsWithin]
  cases found : output? g with
  | none => exact ⟨by simp, rfl⟩
  | some x =>
    obtain ⟨id, output⟩ := x
    have uncut : ∀ col ∈ output.columns, ∀ cap, g.nodes.length ≤ cap →
        (trace (.ofGraph g) (cap + 1) col id).cut = [] := by
      intro col hc cap enough
      have within : ∀ depth last at_node,
          Called (.ofGraph g) cap col id depth last at_node → depth ≤ cap := by
        intro depth last at_node called
        exact (shallow id output found col hc cap depth last at_node called).le.trans enough
      exact Called.uncut within .start
    refine ⟨List.forall_mem_map.mpr fun col hc => uncut col hc cap enough, ?_⟩
    simp only [List.map_map]
    refine List.map_congr_left fun col hc => ?_
    have same := trace_mono (Nat.succ_le_succ enough) (uncut col hc _ le_rfl)
    simp only [Function.comp_apply, same]

/-- Two named results, one of the other, with the output in front of all that it comes from. -/
def handedOn : Graph where
  nodes :=
    [⟨"output_0", .output { columns := [⟨"total", some "sums", some "sum", none⟩] }, none⟩,
      ⟨"cte_1", .named { name := "sums", columns := [⟨"sum", some "parts", some "part", none⟩] },
        none⟩,
      ⟨"cte_2", .named { name := "parts", columns := [⟨"part", none, some "amount", none⟩] },
        none⟩,
      ⟨"table_3", .table { table := "orders", columns := [⟨"amount", none, none, none⟩] }, none⟩]
  edges :=
    [{ id := "e0", source := "cte_1", target := "output_0" },
      { id := "e1", source := "cte_2", target := "cte_1" },
      { id := "e2", source := "table_3", target := "cte_2" },
      { id := "e3", source := "table_3", target := "cte_2" },
      { id := "e4", source := "elsewhere", target := "cte_1" },
      { id := "e5", source := "cte_1", target := "elsewhere" }]

/-- The search in it goes on by name twice, and its limit can be any above four. -/
theorem limit_unreached_handedOn :
    handedOn.ids.Nodup ∧ (∀ id, ¬ TransGen handedOn.Leads id id) ∧
    (∀ cap depth col at_node,
      Called (.ofGraph handedOn) cap ⟨"total", some "sums", some "sum", none⟩ "output_0" depth col
        at_node → depth < 4) ∧
    (∀ cap, 4 ≤ cap →
      (∀ x ∈ handedOn.trailsWithin cap, x.2.cut = []) ∧
        handedOn.lineageWithin cap = handedOn.lineage) ∧
    handedOn.lineage = [⟨"total", [⟨"orders", "amount"⟩]⟩] := by
  have distinct : handedOn.ids.Nodup := by decide
  have acyclic : ∀ id, ¬ TransGen handedOn.Leads id id :=
    acyclic_of_rank (["table_3", "cte_2", "cte_1", "output_0"].idxOf ·)
      (by decide) (by decide)
  obtain ⟨shallow, limits⟩ := limit_unreached handedOn distinct acyclic
  exact ⟨distinct, acyclic, shallow "output_0" _ rfl _ (.head _), limits, by decide⟩

end Graph

end QueryFlow
