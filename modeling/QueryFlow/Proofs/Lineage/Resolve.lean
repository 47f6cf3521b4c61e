import QueryFlow.Proofs.Builder.Count
import QueryFlow.Proofs.Builder.Offers
import QueryFlow.Proofs.Lineage.Scope

/-!
The search for an output column, read off the query and without its graph. A name stands for the
first table that goes by it, or else for the first offer of that name; a column without such a name
is looked for in what flows into the output. The main statement is that this is the search in the
graph, depth for depth.
-/

namespace QueryFlow

namespace Lineage

theorem given?_eq_some {name : Option String} {s : String} :
    given? name = some s ↔ name = some s ∧ s ≠ "" := by
  unfold given?
  cases name with
  | none => simp
  | some t =>
    rw [Option.bind_some, nonEmpty?_eq_some, Option.some.injEq]
    constructor <;> rintro ⟨rfl, h⟩ <;> exact ⟨rfl, h⟩

/-- A column of an offer: what is found for it, or else the offer's name. -/
def inOffer (o : Offer) (column : String) (search : ColumnRef → Trail) : Trail :=
  match o.columns.find? (·.name == column) with
  | none => ⟨[⟨o.name, column⟩], []⟩
  | some inner =>
    if (given? inner.sourceColumn).isNone then ⟨[⟨o.name, column⟩], []⟩
    else orStand ⟨o.name, column⟩ (search inner)

theorem orStand_cut (stand : LineageSource) (t : Trail) : (orStand stand t).cut = t.cut := by
  unfold orStand
  split <;> rfl

theorem inOffer_congr {o : Offer} {column : String} {search search' : ColumnRef → Trail}
    (h : ∀ inner ∈ o.columns, search' inner = search inner) :
    inOffer o column search' = inOffer o column search := by
  unfold inOffer
  cases hi : o.columns.find? (·.name == column) with
  | none => rfl
  | some inner => simp only [h inner (List.mem_of_find?_eq_some hi)]

theorem inOffer_stable {o : Offer} {column : String} {search search' : ColumnRef → Trail}
    (whole : (inOffer o column search).cut = [])
    (h : ∀ inner ∈ o.columns, (search inner).cut = [] → search' inner = search inner) :
    inOffer o column search' = inOffer o column search := by
  unfold inOffer at whole ⊢
  cases hi : o.columns.find? (·.name == column) with
  | none => rfl
  | some inner =>
    simp only [hi] at whole ⊢
    split
    · rfl
    · rename_i named
      rw [if_neg named, orStand_cut] at whole
      rw [h inner (List.mem_of_find?_eq_some hi) whole]

/-- What the names in a query stand for, wherever they are written. -/
structure Names where
  tables : List FromEntry
  offers : List Offer

/-- What a column that names its source stands for. -/
inductive Meaning where
  | table (source : LineageSource)
  | offer (o : Offer) (column : String)

namespace Names

/-- A table goes before an offer, and the first of each before the others. -/
def meaning? (w : Names) (col : ColumnRef) : Option Meaning :=
  match given? col.sourceTable, given? col.sourceColumn with
  | some name, some column =>
    match w.tables.find? (·.knownAs name) with
    | some e => some (.table ⟨e.table, column⟩)
    | none => (w.offers.find? (·.name == name)).map (.offer · column)
  | _, _ => none

/-- Search for a column as it is seen above `f`; `fuel` is how much deeper the search may go. -/
def resolve (w : Names) : Nat → ColumnRef → Inflow → Trail
  | 0, col, _ => ⟨[], [col.name]⟩
  | fuel + 1, col, f =>
    match w.meaning? col with
    | some (.table source) => ⟨[source], []⟩
    | some (.offer o column) => inOffer o column fun inner => w.resolve fuel inner o.inflow
    | none => f.climb col (fuel + 1)

variable {w : Names} {col : ColumnRef} {f : Inflow} {fuel : Nat}

theorem mem_of_meaning?_offer {o : Offer} {column : String}
    (h : w.meaning? col = some (.offer o column)) : o ∈ w.offers := by
  unfold meaning? at h
  split at h
  · split at h
    · cases h
    · obtain ⟨x, hx, he⟩ := Option.map_eq_some_iff.mp h
      cases he
      exact List.mem_of_find?_eq_some hx
  · cases h

theorem resolve_of_no_meaning (h : w.meaning? col = none) :
    w.resolve fuel col f = f.climb col fuel := by
  cases fuel with
  | zero => rfl
  | succ fuel => simp only [resolve, h]

/-- More fuel does not change a search that is not cut off. -/
theorem resolve_succ (h : (w.resolve fuel col f).cut = []) :
    w.resolve (fuel + 1) col f = w.resolve fuel col f := by
  induction fuel generalizing col f with
  | zero => simp [resolve] at h
  | succ fuel ih =>
    rw [resolve] at h ⊢
    rw [resolve]
    cases hm : w.meaning? col with
    | none =>
      simp only [hm] at h
      exact Inflow.climb_succ h
    | some m =>
      cases m with
      | table source => rfl
      | offer o column =>
        simp only [hm] at h
        exact inOffer_stable h fun inner _ hi => ih hi

theorem resolve_mono {more : Nat} (le : fuel ≤ more) (h : (w.resolve fuel col f).cut = []) :
    w.resolve more col f = w.resolve fuel col f := by
  induction le with
  | refl => rfl
  | step _ ih => rw [resolve_succ (ih ▸ h), ih]

end Names

end Lineage

/-- Lists that agree in each place are searched with results that agree. -/
theorem rel_find? {α β : Type} {R : α → β → Prop} {xs : List α} {ys : List β}
    (h : List.Forall₂ R xs ys) (is : α → Bool) (is' : β → Bool)
    (same : ∀ x y, R x y → is x = is' y) : Option.Rel R (xs.find? is) (ys.find? is') := by
  induction h with
  | nil => exact .none
  | @cons x y _ _ head _ ih =>
    rw [List.find?_cons, List.find?_cons, same x y head]
    cases is' y with
    | true => exact .some head
    | false => exact ih

namespace Query

open Lineage

variable (ctx : BuildContext) (q : Query)

/-- What the names in a query stand for. -/
def names : Names := ⟨q.tableEntries, q.offers ctx⟩

/-- The first result of a name in the graph is the first offer of that name in the query. -/
theorem graph_first (name : String) : Option.Rel (Builder.Agrees (q.graph ctx))
    ((q.graph ctx).results.find? (·.2.name == name)) ((q.offers ctx).find? (·.name == name)) :=
  rel_find? (q.graph_results ctx) _ _ fun x o hx => by rw [hx.1]

/-- What a column names in the graph is what it means in the query. -/
theorem origin_eq (col : ColumnRef) :
    match (q.names ctx).meaning? col with
    | none => origin? (.ofGraph (q.graph ctx)) col = none
    | some (.table source) => origin? (.ofGraph (q.graph ctx)) col = some (.table source)
    | some (.offer o column) => ∃ node, (q.graph ctx).Yields node o.inflow ∧
        origin? (.ofGraph (q.graph ctx)) col =
          some (.named node (o.columns.find? (·.name == column)) ⟨o.name, column⟩) := by
  have distinct := q.graph_nodup ctx
  unfold Names.meaning? origin?
  cases given? col.sourceTable with
  | none => rfl
  | some name =>
    cases given? col.sourceColumn with
    | none => rfl
    | some column =>
      have tables := q.first_table ctx name
      simp only [names, Chart.table?_ofGraph distinct, Chart.named?_ofGraph distinct]
      cases hf : q.tableEntries.find? (·.knownAs name) with
      | some e =>
        rw [hf, Option.map_some, Option.map_eq_some_iff] at tables
        obtain ⟨t, ht, same⟩ := tables
        rw [TableSource.mention, FromEntry.mention, Prod.mk.injEq] at same
        simp only [ht, same.1]
      | none =>
        rw [hf, Option.map_none, Option.map_eq_none_iff] at tables
        have first := q.graph_first ctx name
        simp only [tables]
        cases ho : (q.offers ctx).find? (·.name == name) with
        | none =>
          rw [ho] at first
          rw [rel_none_right.mp first]
          rfl
        | some o =>
          rw [ho] at first
          obtain ⟨x, hx, _, hcols, hy⟩ := rel_some_right.mp first
          have hname : o.name = name := by simpa using List.find?_some ho
          exact ⟨x.1, hy, by simp [hx, hcols, hname]⟩

/-- The search in the graph of a query is the search in the query. -/
theorem trace_eq {fuel : Nat} {col : ColumnRef} {id : String} {f : Inflow}
    (hy : (q.graph ctx).Yields id f) :
    trace (.ofGraph (q.graph ctx)) fuel col id = (q.names ctx).resolve fuel col f := by
  -- Only an offer leads to another column at another node, so both of them vary in the induction.
  induction fuel generalizing col id f with
  | zero => rfl
  | succ fuel ih =>
    have origin := q.origin_eq ctx col
    cases hm : (q.names ctx).meaning? col with
    | none =>
      simp only [hm] at origin
      rw [trace_of_no_origin origin, Names.resolve_of_no_meaning hm]
      exact climb_eq (q.graph_nodup ctx) hy
    | some m =>
      cases m with
      | table source =>
        simp only [hm] at origin
        simp only [trace, origin, Names.resolve, hm]
      | offer o column =>
        simp only [hm] at origin
        obtain ⟨node, hnode, origin⟩ := origin
        simp only [trace, origin, Names.resolve, hm, inOffer]
        cases o.columns.find? (·.name == column) with
        | none => rfl
        | some inner => simp only [ih hnode]

/-- The search for a column of the main query. -/
def search (col : ColumnRef) : Trail :=
  (q.names ctx).resolve ((q.graph ctx).nodes.length + 1) col (q.inflow ctx)

/-- The columns that the tables above the output list, in the order in which they are read. -/
def listed : List LineageSource := (q.inflow ctx).listed

theorem trails_eq : trails (q.graph ctx) =
    (Builder.columnsOf ctx.dialect q.body).map fun col => (col.name, q.search ctx col) := by
  obtain ⟨id, output, ho, hc⟩ := q.graph_outputs ctx
  obtain ⟨id', output', ho', hy⟩ := q.graph_inflow ctx
  obtain ⟨rfl, -⟩ := Prod.mk.inj (List.cons.inj (ho.symm.trans ho')).1
  simp only [trails, output?_eq_head?, ho, List.head?_cons, hc, q.trace_eq ctx hy, search]

/-- The lineage of a query is what its search finds for the columns of the main query. -/
theorem lineage_eq : (q.graph ctx).lineage = (Builder.columnsOf ctx.dialect q.body).map fun col =>
    ⟨col.name, (q.search ctx col).sources⟩ := by
  simp [Graph.lineage, trails_eq]

theorem lineage_item {i : Nat} {item : SelectItem} (hi : q.body.items[i]? = some item) :
    (q.graph ctx).lineage[i]? = some ⟨(Builder.columnOf ctx.dialect item).name,
      (q.search ctx (Builder.columnOf ctx.dialect item)).sources⟩ := by
  simp [lineage_eq, Builder.columnsOf, hi]

variable {ctx q} {col col' : ColumnRef}

/-- A column that names nothing known is answered by the first listed column that fits, anywhere in
the query. -/
theorem resolve_listed (h : (q.names ctx).meaning? col = none) {id : String} {f : Inflow}
    (hy : (q.graph ctx).Yields id f) (result : f.own = []) {fuel : Nat}
    (le : (q.graph ctx).nodes.length ≤ fuel) :
    ((q.names ctx).resolve fuel col f).sources = (f.listed.find? col.answeredBy).toList := by
  have deep : f.depth < fuel := Nat.lt_of_lt_of_le (hy.depth_lt (q.graph_forward ctx)) le
  rw [Names.resolve_of_no_meaning h, Inflow.climb_of_depth_lt deep, Inflow.listed_eq, result,
    List.nil_append]

theorem search_of_no_meaning (h : (q.names ctx).meaning? col = none) :
    (q.search ctx col).sources = ((q.listed ctx).find? col.answeredBy).toList := by
  obtain ⟨id, _, _, hy⟩ := q.graph_inflow ctx
  have result : (q.inflow ctx).own = [] := by
    rw [inflow, Selection.inflow, Inflow.after_own]
  exact resolve_listed h hy result (Nat.le_succ _)

/-- The name of a column plays no part when its source is known. -/
theorem search_of_meaning {m : Meaning} (h : (q.names ctx).meaning? col = some m)
    (table : col'.sourceTable = col.sourceTable) (column : col'.sourceColumn = col.sourceColumn) :
    q.search ctx col' = q.search ctx col := by
  have h' : (q.names ctx).meaning? col' = some m := by
    rw [← h, Names.meaning?, Names.meaning?, table, column]
  simp only [search, Names.resolve, h, h']
  cases m <;> rfl

end Query

end QueryFlow
