import QueryFlow.Proofs.Keyed
import QueryFlow.Proofs.Lineage.Resolve

/-!
What a search answers in a graph of which nothing is known: ids may repeat, edges may lead in a
circle or to no node, and a result may name itself as its source. The depth of a search is limited,
so every search ends. Its answer is at most one source, and the graph accounts for that source by
a table or a result of its name and by a column. Which source is found is not said here.
-/

namespace QueryFlow

namespace Lineage

variable {c : Chart} {cap depth : Nat} {col : ColumnRef} {id : String} {t : Trail}

/-- A search ends with an answer when every search that it may go on to ends with one. The greatest
depth at which a search still looks anywhere is `cap`. -/
inductive Ends (c : Chart) (cap : Nat) : Nat → ColumnRef → String → Trail → Prop where
  | cut {depth : Nat} {col : ColumnRef} {id : String} (deep : cap < depth) :
      Ends c cap depth col id ⟨[], [col.name]⟩
  | table {depth : Nat} {col : ColumnRef} {id : String} {source : LineageSource}
      (within : depth ≤ cap) (origin : origin? c col = some (.table source)) :
      Ends c cap depth col id ⟨[source], []⟩
  | stand {depth : Nat} {col : ColumnRef} {id node : String} {inner : Option ColumnRef}
      {stand : LineageSource} (within : depth ≤ cap)
      (origin : origin? c col = some (.named node inner stand))
      (unnamed : inner.bind (fun i => given? i.sourceColumn) = none) :
      Ends c cap depth col id ⟨[stand], []⟩
  | named {depth : Nat} {col inner : ColumnRef} {id node column : String} {stand : LineageSource}
      {t : Trail} (within : depth ≤ cap)
      (origin : origin? c col = some (.named node (some inner) stand))
      (named : given? inner.sourceColumn = some column)
      (rest : Ends c cap (depth + 1) inner node t) :
      Ends c cap depth col id (orStand stand t)
  | above {depth : Nat} {col : ColumnRef} {id : String} {search : String → Trail}
      (within : depth ≤ cap) (origin : origin? c col = none)
      (rest : ∀ p ∈ c.parents id, Ends c cap (depth + 1) col p (search p)) :
      Ends c cap depth col id (above c search col id)

theorem above_congr {search search' : String → Trail}
    (h : ∀ p ∈ c.parents id, search p = search' p) :
    above c search col id = above c search' col id := by
  refine firstFound_congr (List.forall₂_same.mpr fun p hp => ?_)
  rw [h p hp]

theorem trace_ends (c : Chart) (cap depth : Nat) (col : ColumnRef) (id : String) :
    Ends c cap depth col id (trace c (cap + 1 - depth) col id) := by
  generalize room : cap + 1 - depth = fuel
  induction fuel generalizing depth col id with
  | zero => exact .cut (by omega)
  | succ fuel ih =>
    have within : depth ≤ cap := by omega
    have less : cap + 1 - (depth + 1) = fuel := by omega
    rw [trace]
    cases origin : origin? c col with
    | none => exact .above within origin fun p _ => ih (depth + 1) col p less
    | some o =>
      cases o with
      | table source => exact .table within origin
      | named node inner stand =>
        cases inner with
        | none => exact .stand within origin rfl
        | some inner =>
          cases named : given? inner.sourceColumn with
          | none => simpa [named] using Ends.stand within origin (by simpa using named)
          | some column =>
            simpa [named] using Ends.named within origin named (ih (depth + 1) inner node less)

/-- A search ends in one way only. -/
theorem ends_iff : Ends c cap depth col id t ↔ t = trace c (cap + 1 - depth) col id := by
  constructor
  · intro h
    induction h with
    | cut deep => rw [Nat.sub_eq_zero_of_le deep, trace]
    | table within origin => rw [Nat.succ_sub within, trace, origin]
    | @stand _ _ _ _ inner _ within origin unnamed =>
      rw [Nat.succ_sub within, trace, origin]
      cases inner with
      | none => rfl
      | some i => simp [show given? i.sourceColumn = none from unnamed]
    | named within origin named _ ih =>
      rw [Nat.succ_sub within, trace, origin, ih]
      simp [named]
    | above within origin _ ih =>
      rw [Nat.succ_sub within, trace, origin]
      exact above_congr fun p hp => by rw [ih p hp, Nat.add_sub_add_right]
  · rintro rfl
    exact trace_ends c cap depth col id

/-- Of candidates that are tried in order, one gives the answer or there is none. -/
theorem firstFound_sources {α : Type} (search : α → Trail) (xs : List α) :
    (firstFound search xs).sources = [] ∨
      ∃ x ∈ xs, (firstFound search xs).sources = (search x).sources := by
  induction xs with
  | nil => exact Or.inl rfl
  | cons x rest ih =>
    rw [firstFound]
    by_cases empty : (search x).sources.isEmpty = true
    · simp only [empty, if_true]
      refine ih.imp_right ?_
      rintro ⟨y, hy, found⟩
      exact ⟨y, List.mem_cons_of_mem _ hy, found⟩
    · simp only [empty, if_false, Bool.false_eq_true]
      exact Or.inr ⟨x, List.mem_cons_self, rfl⟩

end Lineage

namespace Graph

open Lineage

variable {g : Graph}

/-- The columns of the outputs and of the results of named queries. -/
def exports (g : Graph) : List ColumnRef :=
  g.outputs.flatMap (·.2.columns) ++ g.results.flatMap (·.2.columns)

/-- The graph has a table or a result of the source's name. An export names the column as its
source, or else the table lists it. -/
inductive Accounts (g : Graph) (s : LineageSource) : Prop where
  | listed {t : TableSource} {found : ColumnRef} (table : t ∈ g.tables) (name : t.table = s.table)
      (lists : found ∈ t.columns) (column : found.name = s.column) : Accounts g s
  | table {t : TableSource} {col : ColumnRef} (table : t ∈ g.tables) (name : t.table = s.table)
      (exported : col ∈ g.exports) (column : col.sourceColumn = some s.column) : Accounts g s
  | result {x : String × NamedResult} {col : ColumnRef} (result : x ∈ g.results)
      (name : x.2.name = s.table) (exported : col ∈ g.exports)
      (column : col.sourceColumn = some s.column) : Accounts g s

/-- There is at most one source, and the graph accounts for it. -/
def Justifies (g : Graph) (sources : List LineageSource) : Prop :=
  sources = [] ∨ ∃ s, sources = [s] ∧ g.Accounts s

theorem mem_exports_of_output {x : String × Output} (hx : x ∈ g.outputs) {col : ColumnRef}
    (hc : col ∈ x.2.columns) : col ∈ g.exports :=
  List.mem_append_left _ (List.mem_flatMap.mpr ⟨x, hx, hc⟩)

theorem mem_exports_of_result {x : String × NamedResult} (hx : x ∈ g.results) {col : ColumnRef}
    (hc : col ∈ x.2.columns) : col ∈ g.exports :=
  List.mem_append_right _ (List.mem_flatMap.mpr ⟨x, hx, hc⟩)

/-- Of nodes with one id the chart keeps one, and it holds no other nodes. -/
theorem mem_nodes_of_chart {x : String × Node} (h : x ∈ (Chart.ofGraph g).nodes) :
    x.2 ∈ g.nodes := by
  rcases Keyed.mem_assignAll h with h | h
  · obtain ⟨n, hn, rfl⟩ := List.mem_map.mp h
    exact hn
  · cases h

theorem mem_tables_of_chart {x : String × Node} (h : x ∈ (Chart.ofGraph g).nodes)
    {t : TableSource} (data : x.2.data = .table t) : t ∈ g.tables :=
  List.mem_filterMap.mpr ⟨x.2, mem_nodes_of_chart h, by rw [Node.table?, data]⟩

theorem mem_results_of_chart {x : String × Node} (h : x ∈ (Chart.ofGraph g).nodes)
    {r : NamedResult} (data : x.2.data = .named r) : (x.2.id, r) ∈ g.results :=
  List.mem_filterMap.mpr ⟨x.2, mem_nodes_of_chart h, by rw [Node.result?, data]; rfl⟩

theorem table?_mem {name : String} {t : TableSource}
    (h : (Chart.ofGraph g).table? name = some t) : t ∈ g.tables := by
  obtain ⟨x, hx, found⟩ := List.exists_of_findSome?_eq_some h
  cases data : x.2.data with
  | table s =>
    simp only [data, Option.ite_none_right_eq_some, Option.some.injEq] at found
    exact found.2 ▸ mem_tables_of_chart hx data
  | _ => simp [data] at found

theorem named?_mem {name node : String} {r : NamedResult}
    (h : (Chart.ofGraph g).named? name = some (node, r)) :
    r.name = name ∧ ∃ x ∈ g.results, x.2 = r := by
  obtain ⟨x, hx, found⟩ := List.exists_of_findSome?_eq_some h
  cases data : x.2.data with
  | named s =>
    simp only [data, Option.ite_none_right_eq_some, Option.some.injEq, Prod.mk.injEq, beq_iff_eq]
      at found
    obtain ⟨same, _, rfl⟩ := found
    exact ⟨same, _, mem_results_of_chart hx data, rfl⟩
  | _ => simp [data] at found

section Search

variable {col : ColumnRef} {id : String}

/-- What a column names as its origin is in the graph. -/
theorem accounts_of_origin (exported : col ∈ g.exports) {origin : Origin}
    (h : origin? (Chart.ofGraph g) col = some origin) :
    match origin with
    | .table source => g.Accounts source
    | .named _ inner stand => g.Accounts stand ∧ ∀ i, inner = some i → i ∈ g.exports := by
  unfold origin? at h
  split at h
  case h_2 => cases h
  case h_1 name column hn hc =>
    have named : col.sourceColumn = some column := (given?_eq_some.mp hc).1
    cases ht : (Chart.ofGraph g).table? name with
    | some t =>
      simp only [ht, Option.some.injEq] at h
      subst h
      exact .table (table?_mem ht) rfl exported named
    | none =>
      simp only [ht, Option.map_eq_some_iff] at h
      obtain ⟨⟨node, r⟩, hr, rfl⟩ := h
      obtain ⟨same, x, hx, rfl⟩ := named?_mem hr
      refine ⟨.result hx same exported named, fun i hi => ?_⟩
      exact mem_exports_of_result hx (List.mem_of_find?_eq_some hi)

/-- Above a node, tables answer with what they list and the searches above them with what they
find. -/
theorem justifies_above {search : String → Trail}
    (h : ∀ p, g.Justifies (search p).sources) :
    g.Justifies (above (Chart.ofGraph g) search col id).sources := by
  rcases firstFound_sources _ ((Chart.ofGraph g).parents id) with nothing | ⟨p, _, found⟩
  · exact Or.inl nothing
  rw [above, found]
  cases hn : (Chart.ofGraph g).nodes.lookup p with
  | none => exact Or.inl rfl
  | some n =>
    have mem : (p, n) ∈ (Chart.ofGraph g).nodes := by
      obtain ⟨front, behind, split, _⟩ := List.lookup_eq_some_iff.mp hn
      simp [split]
    cases data : n.data with
    | table t =>
      cases hl : listed? t col with
      | none => simpa only [data, hl] using h p
      | some listed =>
        simp only [data, hl]
        exact Or.inr ⟨_, rfl, .listed (mem_tables_of_chart mem data) rfl
          (List.mem_of_find?_eq_some hl) rfl⟩
    | _ => simpa only [data] using h p

theorem justifies_trace (exported : col ∈ g.exports) (fuel : Nat) :
    g.Justifies (trace (Chart.ofGraph g) fuel col id).sources := by
  -- A named result changes the column that is searched for, but only to another export.
  induction fuel generalizing col id with
  | zero => exact Or.inl rfl
  | succ fuel ih =>
    rw [trace]
    cases origin : origin? (Chart.ofGraph g) col with
    | none => exact justifies_above fun p => ih exported
    | some o =>
      cases o with
      | table source => exact Or.inr ⟨source, rfl, accounts_of_origin exported origin⟩
      | named node inner stand =>
        obtain ⟨accounted, inside⟩ := accounts_of_origin exported origin
        have standing : g.Justifies [stand] := Or.inr ⟨stand, rfl, accounted⟩
        cases inner with
        | none => exact standing
        | some inner =>
          have deeper : g.Justifies (trace (Chart.ofGraph g) fuel inner node).sources :=
            ih (inside inner rfl)
          simp only
          split
          · exact standing
          · unfold orStand
            split
            · exact standing
            · exact deeper

end Search

/-- In every graph each search for a column ends, and in one way. The lineage is empty when there is
no output. Otherwise it has one entry for each column of the first output, in order, with the name
of the column and with what the search for it ends with: no source, or one that the graph accounts
for. -/
theorem lineage_sound (g : Graph) :
    (∀ col id, ∃! t, Ends (.ofGraph g) g.nodes.length 0 col id t) ∧
      (g.outputs = [] → g.lineage = []) ∧
      (∀ id output rest, g.outputs = (id, output) :: rest →
        List.Forall₂ (fun col entry => entry.output = col.name ∧
          ∃ t, Ends (.ofGraph g) g.nodes.length 0 col id t ∧ entry.sources = t.sources)
        output.columns g.lineage) ∧
      ∀ entry ∈ g.lineage, entry.sources = [] ∨
        ∃ s, entry.sources = [s] ∧ g.Accounts s := by
  refine ⟨fun col id => ⟨_, trace_ends _ _ 0 col id, fun t ht => ends_iff.mp ht⟩, ?_, ?_, ?_⟩
  · intro none
    rw [lineage, trails, output?_eq_head?, none]
    rfl
  · intro id output rest first
    have entries : g.lineage = output.columns.map fun col =>
        ⟨col.name, (trace (.ofGraph g) (g.nodes.length + 1) col id).sources⟩ := by
      simp [lineage, trails, output?_eq_head?, first]
    rw [entries, List.forall₂_map_right_iff]
    exact List.forall₂_same.mpr fun col _ => ⟨rfl, _, trace_ends _ _ 0 col id, rfl⟩
  · intro entry he
    rw [lineage, trails, output?_eq_head?] at he
    cases first : g.outputs.head? with
    | none => simp [first] at he
    | some x =>
      simp only [first, List.map_map, List.mem_map, Function.comp_apply] at he
      obtain ⟨col, hc, rfl⟩ := he
      exact justifies_trace (mem_exports_of_output (List.mem_of_head? first) hc) _

end Graph

end QueryFlow
