import QueryFlow.Proofs.Lineage.Composition

/-!
How deep a search goes. A column that is read from a named query is looked for in that query, so a
search passes from one named query to the next before it walks along the edges. The limit on the
depth is the number of nodes. Each named query has a frame, which no walk meets, so there is room
to pass through every named query once. But the passing on goes by names, and an alias of one query
may be the name of another, so that a search can come back to where it was. The results say exactly
when the limit is reached, that it takes such a cycle of names, and which use of aliases rules
cycles out.
-/

namespace QueryFlow

namespace Lineage.Names

variable {w : Names} {col last last' : ColumnRef} {f g g' : Inflow} {fuel : Nat}
variable {names names' circle : List String}

/-- The column of a named query that a search goes on to. -/
def inner? (w : Names) (col : ColumnRef) : Option (ColumnRef × Offer) :=
  match w.meaning? col with
  | some (.offer o column) =>
    ((o.columns.find? (·.name == column)).filter fun i => (given? i.sourceColumn).isSome).map
      fun i => (i, o)
  | _ => none

/-- The search for one column above an inflow goes on, through the named queries of these names, to
the search for another one. -/
inductive Passes (w : Names) : List String → ColumnRef → Inflow → ColumnRef → Inflow → Prop where
  | stays (col : ColumnRef) (f : Inflow) : Passes w [] col f col f
  | goesOn {names : List String} {col inner last : ColumnRef} {f g : Inflow} {o : Offer}
      (next : w.inner? col = some (inner, o)) (rest : Passes w names inner o.inflow last g) :
      Passes w (o.name :: names) col f last g

/-- The search comes back to a named query that it has passed through. -/
def ComesBack (w : Names) (col : ColumnRef) (f : Inflow) : Prop :=
  ∃ names last g, w.Passes names col f last g ∧ ¬ names.Nodup

/-- The search comes back to a search that it has gone on to, and so it never ends. -/
def Circles (w : Names) (col : ColumnRef) (f : Inflow) : Prop :=
  ∃ names last g circle, w.Passes names col f last g ∧ w.Passes circle last g last g ∧ circle ≠ []

/-- The search goes on to no named query, and if it has to walk along the edges, the walk ends. -/
def Rests (w : Names) (room : Nat) (col : ColumnRef) (f : Inflow) : Prop :=
  w.inner? col = none ∧ (w.meaning? col = none → (f.climb col room).cut = [])

theorem inner?_eq_some_iff {inner : ColumnRef} {o : Offer} :
    w.inner? col = some (inner, o) ↔ ∃ column, w.meaning? col = some (.offer o column) ∧
      o.columns.find? (·.name == column) = some inner ∧
      (given? inner.sourceColumn).isSome = true := by
  unfold inner?
  cases w.meaning? col with
  | none => simp
  | some m =>
    cases m with
    | table source => simp
    | offer o' column =>
      simp only [Option.map_eq_some_iff, Option.filter_eq_some_iff, Prod.mk.injEq,
        Option.some.injEq, Meaning.offer.injEq]
      constructor
      · rintro ⟨i, found, rfl, rfl⟩
        exact ⟨column, ⟨rfl, rfl⟩, found⟩
      · rintro ⟨_, ⟨rfl, rfl⟩, found⟩
        exact ⟨inner, found, rfl, rfl⟩

theorem of_meaning?_offer {o : Offer} {column : String}
    (h : w.meaning? col = some (.offer o column)) :
    ∃ name, col.sourceTable = some name ∧ w.tables.find? (·.knownAs name) = none ∧
      w.offers.find? (·.name == name) = some o := by
  unfold meaning? at h
  split at h
  case h_2 => cases h
  case h_1 name _ given _ =>
    refine ⟨name, (given?_eq_some.mp given).1, ?_⟩
    cases free : w.tables.find? (·.knownAs name) with
    | some e => simp [free] at h
    | none =>
      simp only [free, Option.map_eq_some_iff, Meaning.offer.injEq] at h
      obtain ⟨_, first, rfl, _⟩ := h
      exact ⟨rfl, first⟩

theorem mem_of_inner? {inner : ColumnRef} {o : Offer} (h : w.inner? col = some (inner, o)) :
    o ∈ w.offers ∧ inner ∈ o.columns := by
  obtain ⟨column, meaning, first, _⟩ := inner?_eq_some_iff.mp h
  exact ⟨mem_of_meaning?_offer meaning, List.mem_of_find?_eq_some first⟩

/-- A search goes on to the first named query of a name. -/
theorem first_of_inner? {inner : ColumnRef} {o : Offer} (h : w.inner? col = some (inner, o)) :
    ∃ i, w.offers[i]? = some o ∧ o.name ∉ (w.offers.take i).map (·.name) := by
  obtain ⟨column, meaning, _⟩ := inner?_eq_some_iff.mp h
  obtain ⟨name, _, _, found⟩ := of_meaning?_offer meaning
  obtain ⟨same, i, inside, at_i, before⟩ := List.find?_eq_some_iff_getElem.mp found
  refine ⟨i, List.getElem?_eq_some_iff.mpr ⟨inside, at_i⟩, fun taken => ?_⟩
  obtain ⟨x, hx, named⟩ := List.mem_map.mp taken
  obtain ⟨j, less, rfl⟩ := List.mem_take_iff_getElem.mp hx
  have other := before j (by omega)
  rw [beq_iff_eq] at same
  simp [named, same] at other

theorem cut_of_inner? {inner : ColumnRef} {o : Offer} (h : w.inner? col = some (inner, o)) :
    (w.resolve (fuel + 1) col f).cut = (w.resolve fuel inner o.inflow).cut := by
  obtain ⟨column, meaning, first, named⟩ := inner?_eq_some_iff.mp h
  have given : (given? inner.sourceColumn).isNone = false := by
    rw [← Option.not_isSome, named, Bool.not_true]
  simp only [resolve, meaning, inOffer, first, given, if_false, orStand_cut, Bool.false_eq_true]

theorem cut_of_no_inner? (h : w.inner? col = none) :
    (w.resolve (fuel + 1) col f).cut = [] ↔ w.Rests (fuel + 1) col f := by
  rw [resolve, Rests, h]
  cases meaning : w.meaning? col with
  | none => simp
  | some m =>
    cases m with
    | table source => simp
    | offer o column =>
      simp only [inOffer, reduceCtorEq, false_implies, and_true, iff_true]
      cases first : o.columns.find? (·.name == column) with
      | none => rfl
      | some inner =>
        cases named : given? inner.sourceColumn with
        | none => simp only [named, Option.isNone_none, if_true]
        | some source =>
          have next := inner?_eq_some_iff.mpr ⟨column, meaning, first, by rw [named]; rfl⟩
          rw [h] at next
          cases next

/-- A search is not cut off when the passing on ends with enough room left for the walk. -/
theorem resolve_cut_iff : (w.resolve fuel col f).cut = [] ↔
    ∃ names last g, names.length < fuel ∧ w.Passes names col f last g ∧
      w.Rests (fuel - names.length) last g := by
  induction fuel generalizing col f with
  | zero => simp [resolve]
  | succ fuel ih =>
    cases next : w.inner? col with
    | none =>
      rw [cut_of_no_inner? next]
      constructor
      · intro rests
        exact ⟨[], col, f, Nat.succ_pos _, .stays col f, rests⟩
      · rintro ⟨names, last, g, _, passes, rests⟩
        cases passes with
        | stays => exact rests
        | goesOn other _ => rw [next] at other; cases other
    | some x =>
      obtain ⟨inner, o⟩ := x
      rw [cut_of_inner? next, ih]
      constructor
      · rintro ⟨names, last, g, less, passes, rests⟩
        exact ⟨o.name :: names, last, g, Nat.succ_lt_succ less, .goesOn next passes,
          by rwa [List.length_cons, Nat.add_sub_add_right]⟩
      · rintro ⟨names, last, g, less, passes, rests⟩
        cases passes with
        | stays => rw [rests.1] at next; cases next
        | @goesOn names _ _ _ _ _ _ other rest =>
          rw [next, Option.some.injEq, Prod.mk.injEq] at other
          obtain ⟨rfl, rfl⟩ := other
          exact ⟨names, last, g, Nat.lt_of_succ_lt_succ less, rest,
            by rwa [List.length_cons, Nat.add_sub_add_right] at rests⟩

theorem Passes.trans (h : w.Passes names col f last g) (h' : w.Passes names' last g last' g') :
    w.Passes (names ++ names') col f last' g' := by
  induction h with
  | stays => exact h'
  | goesOn next _ ih => exact .goesOn next (ih h')

/-- There is only one way to go on, so no way is longer than one that ends. -/
theorem Passes.length_le_of_ends (h : w.Passes names col f last g) (ends : w.inner? last = none)
    (h' : w.Passes names' col f last' g') : names'.length ≤ names.length := by
  induction h generalizing names' with
  | stays =>
    cases h' with
    | stays => exact Nat.le_refl _
    | goesOn next _ => rw [ends] at next; cases next
  | goesOn next _ ih =>
    cases h' with
    | stays => exact Nat.zero_le _
    | goesOn other rest =>
      rw [next, Option.some.injEq, Prod.mk.injEq] at other
      obtain ⟨rfl, rfl⟩ := other
      exact Nat.succ_le_succ (ih ends rest)

theorem Passes.repeated (h : w.Passes circle last g last g) (goes : circle ≠ []) (k : Nat) :
    ∃ long, k ≤ long.length ∧ w.Passes long last g last g := by
  induction k with
  | zero => exact ⟨[], Nat.le_refl _, .stays last g⟩
  | succ k ih =>
    obtain ⟨long, enough, passes⟩ := ih
    have more := List.length_pos_iff.mpr goes
    exact ⟨circle ++ long, by rw [List.length_append]; omega, h.trans passes⟩

/-- A search that gets into a circle is cut off, whatever the limit is. -/
theorem not_circles_of_uncut (uncut : (w.resolve fuel col f).cut = []) : ¬ w.Circles col f := by
  rintro ⟨front, last, g, circle, passes, around, goes⟩
  obtain ⟨names, _, _, _, whole, rests⟩ := resolve_cut_iff.mp uncut
  obtain ⟨long, enough, onward⟩ := around.repeated goes (names.length + 1)
  have longest := whole.length_le_of_ends rests.1 (passes.trans onward)
  rw [List.length_append] at longest
  omega

/-- A search passes on as often as is asked, unless it ends before. -/
theorem exists_passes (w : Names) (col : ColumnRef) (f : Inflow) (k : Nat) :
    ∃ names last g, w.Passes names col f last g ∧
      (names.length = k ∨ names.length < k ∧ w.inner? last = none) := by
  induction k generalizing col f with
  | zero => exact ⟨[], col, f, .stays col f, .inl rfl⟩
  | succ k ih =>
    cases next : w.inner? col with
    | none => exact ⟨[], col, f, .stays col f, .inr ⟨k.succ_pos, next⟩⟩
    | some x =>
      obtain ⟨names, last, g, passes, ends⟩ := ih x.1 x.2.inflow
      exact ⟨x.2.name :: names, last, g, .goesOn next passes,
        ends.imp (congrArg Nat.succ) (And.imp_left Nat.succ_lt_succ)⟩

/-- Each step of a way leads into a named query. -/
theorem Passes.offered (h : w.Passes names col f last g) :
    (g = f ∨ ∃ o ∈ w.offers, g = o.inflow) ∧ names ⊆ w.offers.map (·.name) := by
  induction h with
  | stays => exact ⟨.inl rfl, List.nil_subset _⟩
  | goesOn next _ ih =>
    have mem := (mem_of_inner? next).1
    refine ⟨.inr ?_, List.cons_subset.mpr ⟨List.mem_map_of_mem mem, ih.2⟩⟩
    rcases ih.1 with same | inside
    · exact ⟨_, mem, same⟩
    · exact inside

/-- A search that never comes back is not cut off, if the limit has room for all named queries and
for the walk behind them. -/
theorem uncut_of_not_comesBack (onward : ¬ w.ComesBack col f)
    (main : f.depth + w.offers.length < fuel)
    (room : ∀ o ∈ w.offers, o.inflow.depth + w.offers.length < fuel) :
    (w.resolve fuel col f).cut = [] := by
  obtain ⟨names, last, g, passes, ends⟩ := w.exists_passes col f (w.offers.length + 1)
  obtain ⟨origin, known⟩ := passes.offered
  have distinct : names.Nodup := by_contra fun back => onward ⟨names, last, g, passes, back⟩
  have few := distinct.length_le_of_subset known
  rw [List.length_map] at few
  have deep : g.depth + w.offers.length < fuel := by
    rcases origin with rfl | ⟨o, mem, rfl⟩
    · exact main
    · exact room o mem
  have ended := (ends.resolve_left (by omega)).2
  refine resolve_cut_iff.mpr ⟨names, last, g, by omega, passes, ended, fun _ => ?_⟩
  rw [Inflow.climb_of_depth_lt (by omega)]

/-- The columns of each named query are looked for in earlier named queries only. -/
def Ordered (w : Names) : Prop :=
  ∀ k o, w.offers[k]? = some o → ∀ col ∈ o.columns, ∀ inner o',
    w.inner? col = some (inner, o') → o' ∈ w.offers.take k

/-- In such an order, a search from a named query only passes through those in front of it, and
never through one of them twice. -/
theorem Ordered.passes (h : w.Ordered) (passes : w.Passes names col f last g) {k : Nat} {o : Offer}
    (hk : w.offers[k]? = some o) (hc : col ∈ o.columns) :
    names.Nodup ∧ names ⊆ (w.offers.take k).map (·.name) := by
  induction passes generalizing k o with
  | stays => exact ⟨List.nodup_nil, List.nil_subset _⟩
  | @goesOn names col inner _ _ _ o' next _ ih =>
    obtain ⟨i, hi, first⟩ := first_of_inner? next
    obtain ⟨distinct, front⟩ := ih hi (mem_of_inner? next).2
    have there := h k o hk col hc inner o' next
    -- The first named query of its name is not behind any other one of its name.
    have less : i ≤ k := by
      by_contra behind
      exact first (List.mem_map_of_mem (List.take_subset_take_left _ (by omega) there))
    have earlier : (w.offers.take i).map (·.name) ⊆ (w.offers.take k).map (·.name) :=
      List.map_subset _ (List.take_subset_take_left _ less)
    exact ⟨List.nodup_cons.mpr ⟨fun back => first (front back), distinct⟩,
      List.cons_subset.mpr ⟨List.mem_map_of_mem there, fun _ among => earlier (front among)⟩⟩

theorem Ordered.not_comesBack (h : w.Ordered) : ¬ w.ComesBack col f := by
  rintro ⟨names, last, g, passes, back⟩
  cases passes with
  | stays => exact back List.nodup_nil
  | goesOn next rest =>
    obtain ⟨i, hi, first⟩ := first_of_inner? next
    obtain ⟨distinct, front⟩ := h.passes rest hi (mem_of_inner? next).2
    exact back (List.nodup_cons.mpr ⟨fun again => first (front again), distinct⟩)

end Lineage.Names

namespace Graph

variable {g : Graph} {id : String} {f : Inflow}

/-- The longest way up, from node to node. -/
theorem Yields.way (h : g.Yields id f) : ∃ path : List String, path.length = f.depth ∧
    (id :: path).IsChain (fun a b => g.Flows b a) ∧ ∀ a ∈ path, ∃ b, g.Flows a b := by
  induction h with
  | nothing | table => exact ⟨[], rfl, .singleton _, by simp⟩
  | @step n p _ _ _ fed _ ih =>
    obtain ⟨path, long, chain, flows⟩ := ih
    have up : g.Flows p n.id := flows_of_mem_feeders (by simp [fed])
    exact ⟨p :: path, by rw [List.length_cons, long, Inflow.depth], .cons_cons up chain,
      List.forall_mem_cons.mpr ⟨⟨_, up⟩, flows⟩⟩
  | @join n p q l r _ _ fed _ _ left right =>
    rcases Nat.le_total l.depth r.depth with deep | deep
    · obtain ⟨path, long, chain, flows⟩ := right
      have up : g.Flows q n.id := flows_of_mem_feeders (by simp [fed])
      exact ⟨q :: path, by rw [List.length_cons, long, Inflow.depth, Nat.max_eq_right deep],
        .cons_cons up chain, List.forall_mem_cons.mpr ⟨⟨_, up⟩, flows⟩⟩
    · obtain ⟨path, long, chain, flows⟩ := left
      have up : g.Flows p n.id := flows_of_mem_feeders (by simp [fed])
      exact ⟨p :: path, by rw [List.length_cons, long, Inflow.depth, Nat.max_eq_left deep],
        .cons_cons up chain, List.forall_mem_cons.mpr ⟨⟨_, up⟩, flows⟩⟩

/-- No way up meets a group, so there are more nodes than groups and steps together. -/
theorem Yields.depth_add_groups_lt (forward : g.Forward) (formed : g.WellFormed)
    (h : g.Yields id f) (solid : id ∉ g.groupIds) :
    f.depth + g.groupIds.length < g.nodes.length := by
  obtain ⟨path, long, chain, flows⟩ := h.way
  obtain ⟨n, hn, rfl, _⟩ := h.node
  have ends (a : String) (ha : a ∈ path) : a ∈ g.ids ∧ a ∉ g.groupIds := by
    obtain ⟨b, e, he, rfl, _⟩ := flows a ha
    exact formed.ends e he _ (.inl rfl)
  have places : (n.id :: path).Pairwise fun a b => g.place b < g.place a :=
    (chain.imp fun a b up => (forward.flows_lt up).1).pairwise
  have different : (n.id :: path ++ g.groupIds).Nodup := by
    refine List.nodup_append.mpr ⟨places.imp fun less => ?_, ?_, ?_⟩
    · rintro rfl
      exact Nat.lt_irrefl _ less
    · exact formed.distinct.sublist (List.filter_sublist.map _)
    · rintro a ha _ hb rfl
      rcases List.mem_cons.mp ha with rfl | ha
      · exact solid hb
      · exact (ends a ha).2 hb
  have inside : n.id :: path ++ g.groupIds ⊆ g.ids := by
    refine List.append_subset.mpr ⟨List.cons_subset.mpr ⟨List.mem_map_of_mem hn, ?_⟩, ?_⟩
    · exact fun a ha => (ends a ha).1
    · exact List.map_subset _ (List.filter_subset_self _)
  have fits := different.length_le_of_subset inside
  simp only [List.length_append, List.length_cons, ids, List.length_map] at fits
  omega

/-- A node of another kind does not have the id of a group. -/
theorem notMem_groupIds (distinct : g.ids.Nodup) {n : Node} (hn : n ∈ g.nodes)
    (other : n.kind ≠ .group) : n.id ∉ g.groupIds := by
  intro mem
  obtain ⟨m, hm, same⟩ := List.mem_map.mp mem
  obtain ⟨hm, group⟩ := List.mem_filter.mp hm
  obtain rfl := List.inj_on_of_nodup_map distinct hm hn same
  exact other (by simpa [Node.isGroup] using group)

end Graph

namespace Query

open Lineage

/-- Every qualifier in a select list is the name that some entry of the same SELECT shows. -/
def InScope (q : Query) : Prop :=
  ∀ call ∈ q.calls, ∀ item ∈ call.body.items, ∀ r ∈ item.expr.references, ∀ t ∈ r.table,
    ∃ e ∈ call.body.entries, e.visibleName = t

instance (q : Query) : Decidable q.InScope :=
  inferInstanceAs (Decidable (∀ call ∈ q.calls, ∀ item ∈ call.body.items,
    ∀ r ∈ item.expr.references, ∀ t ∈ r.table, ∃ e ∈ call.body.entries, e.visibleName = t))

/-- An alias in a named query that is the name of this query or of a later one is also the name of
an earlier one or goes with a table. -/
def AliasesKnown (q : Query) : Prop :=
  ∀ k (h : k < q.bindings.length), ∀ e ∈ q.bindings[k].body.entries, ∀ a ∈ e.alias,
    a ∈ (q.bindings.drop k).map (·.name) →
      a ∈ (q.bindings.take k).map (·.name) ∨ ∃ t ∈ q.tableEntries, t.knownAs a = true

instance (q : Query) : Decidable q.AliasesKnown :=
  inferInstanceAs (Decidable (∀ k (h : k < q.bindings.length),
    ∀ e ∈ q.bindings[k].body.entries, ∀ a ∈ e.alias, a ∈ (q.bindings.drop k).map (·.name) →
      a ∈ (q.bindings.take k).map (·.name) ∨ ∃ t ∈ q.tableEntries, t.knownAs a = true))

/-- A named query goes by an alias that is the name of the query that reads it. -/
def ownAlias : Query :=
  .withBindings [⟨"z", .single "t" "x" "t" none⟩, ⟨"a", .single "a" "x" "z" (some "a")⟩]
    (.single "a" "x" "a" none) false

/-- A table goes by an alias that is the name of a later named query. -/
def laterAlias : Query :=
  .withBindings [⟨"a", .single "b" "x" "t" (some "b")⟩, ⟨"b", .single "a" "x" "a" none⟩]
    (.single "b" "x" "b" none) false

variable (ctx : BuildContext) (q : Query)

/-- An entry whose name no earlier named query has is read from a table. -/
theorem mem_tableEntries_of_free {front rest : List Binding} {x : Binding}
    (split : q.bindings = front ++ x :: rest) {e : FromEntry} (he : e ∈ x.body.entries)
    (free : e.table ∉ front.map (·.name)) : e ∈ q.tableEntries := by
  have names : (front.map fun x => Builder.Call.named x.name x.body).flatMap (·.name?.toList) =
      front.map (·.name) := by
    rw [List.flatMap_map, List.map_eq_flatMap]
    rfl
  have here : e ∈ x.body.entries.filter fun e =>
      !(([] : List String) ++ front.map (·.name)).contains e.table :=
    List.mem_filter.mpr ⟨he, by simpa using free⟩
  rw [tableEntries_eq, namedCalls, split, List.map_append, Builder.tableEntries_append, names]
  exact List.mem_append_left _ (List.mem_append_right _ (List.mem_append_left _ here))

theorem offer_at {k : Nat} {o : Offer} (hk : (q.offers ctx)[k]? = some o) :
    ∃ x, q.bindings[k]? = some x ∧ o.columns = Builder.columnsOf ctx.dialect x.body := by
  have pairs := congrArg (·[k]?) (q.offers_map ctx)
  simp only [List.getElem?_map, hk, Option.map_some] at pairs
  obtain ⟨x, hx, same⟩ := Option.map_eq_some_iff.mp pairs.symm
  exact ⟨x, hx, (Prod.mk.inj same).2.symm⟩

variable {q}

/-- A name that no table goes by, and that a select list of a named query uses, is the name of an
earlier named query. -/
theorem earlier_of_inScope (scope : q.InScope) (known : q.AliasesKnown) {k : Nat} {x : Binding}
    (hk : q.bindings[k]? = some x) {item : SelectItem} (hi : item ∈ x.body.items) {r : Reference}
    (hr : r ∈ item.expr.references) {name : String} (table : r.table = some name)
    (free : q.tableEntries.find? (·.knownAs name) = none)
    (taken : name ∈ q.bindings.map (·.name)) : name ∈ (q.bindings.take k).map (·.name) := by
  obtain ⟨inside, at_k⟩ := List.getElem?_eq_some_iff.mp hk
  have split : q.bindings = q.bindings.take k ++ x :: q.bindings.drop (k + 1) := by
    rw [← at_k, List.getElem_cons_drop, List.take_append_drop]
  have call : .named x.name x.body ∈ q.calls :=
    List.mem_append_left _ (List.mem_map_of_mem (at_k ▸ List.getElem_mem inside))
  obtain ⟨e, he, shows⟩ := scope _ call item hi r hr name table
  have unread : ∀ t ∈ q.tableEntries, t.knownAs name = false := by simpa using free
  -- The entry that shows the name reads an earlier named query, under its name or under an alias.
  have bound : e.table ∈ (q.bindings.take k).map (·.name) := by
    by_contra unbound
    have := unread e (q.mem_tableEntries_of_free split he unbound)
    rw [← shows, e.knownAs_visibleName] at this
    cases this
  cases shown : e.alias with
  | none =>
    rw [FromEntry.visibleName, shown, Option.getD_none] at shows
    exact shows ▸ bound
  | some a =>
    rw [FromEntry.visibleName, shown, Option.getD_some] at shows
    subst shows
    by_contra late
    have behind : a ∈ (q.bindings.drop k).map (·.name) := by
      rw [← List.take_append_drop k q.bindings, List.map_append, List.mem_append] at taken
      exact taken.resolve_left late
    rcases known k inside e (at_k ▸ he) a shown behind with early | ⟨t, ht, knownAs⟩
    · exact late early
    · rw [unread t ht] at knownAs
      cases knownAs

/-- Where qualifiers are in scope and aliases are known, a named query looks into earlier ones
only. -/
theorem names_ordered (scope : q.InScope) (known : q.AliasesKnown) : (q.names ctx).Ordered := by
  intro k o hk col hc inner o' next
  obtain ⟨column, meaning, _⟩ := Names.inner?_eq_some_iff.mp next
  obtain ⟨name, qualifier, free, first⟩ := Names.of_meaning?_offer meaning
  obtain ⟨x, hx, columns⟩ := q.offer_at ctx hk
  obtain ⟨item, hi, rfl⟩ := List.mem_map.mp (columns ▸ hc)
  obtain ⟨r, hr, table⟩ := SelectItem.reference_of_sourceTable qualifier
  have taken : name ∈ q.bindings.map (·.name) := by
    rw [← q.offers_names ctx]
    exact List.mem_map.mpr ⟨o', List.mem_of_find?_eq_some first, by
      simpa using List.find?_some first⟩
  have early := earlier_of_inScope scope known hx hi hr table free taken
  rw [List.map_take, ← q.offers_names ctx, ← List.map_take, List.mem_map] at early
  obtain ⟨y, hy, same⟩ := early
  obtain ⟨z, hz⟩ : ∃ z, ((q.offers ctx).take k).find? (·.name == name) = some z :=
    Option.isSome_iff_exists.mp (List.find?_isSome.mpr ⟨y, hy, by simp [same]⟩)
  have found : (q.offers ctx).find? (·.name == name) = some z := by
    rw [← List.take_append_drop k (q.offers ctx), List.find?_append, hz, Option.some_or]
  cases found.symm.trans first
  exact List.mem_of_find?_eq_some hz

variable (q)

theorem graph_wellFormed : (q.graph ctx).WellFormed := by
  rw [graph, takeQuery_run]
  exact (Builder.run_sound ctx q.calls).wellFormed

/-- There is a group for each named query. -/
theorem length_groupIds : (q.graph ctx).groupIds.length = (q.offers ctx).length := by
  have frames : (q.graph ctx).frames.length = (q.offers ctx).length := by
    rw [← List.length_map (·.name), q.graph_frames ctx, ← q.offers_names ctx, List.length_map]
  have group (n : Node) : n.isGroup = n.frame?.isSome := by
    unfold Node.isGroup Node.frame? Node.kind
    cases n.data <;> rfl
  rw [← frames, Graph.groupIds, List.length_map, Graph.frames, List.length_filterMap_eq_countP,
    ← List.countP_eq_length_filter]
  exact List.countP_congr fun n _ => by rw [group]

theorem result_of_offer {o : Offer} (ho : o ∈ q.offers ctx) :
    ∃ x ∈ (q.graph ctx).results, (q.graph ctx).Yields x.1 o.inflow := by
  obtain ⟨k, inside, rfl⟩ := List.mem_iff_getElem.mp ho
  have agree := List.forall₂_iff_get.mp (q.graph_results ctx)
  have inside' : k < (q.graph ctx).results.length := agree.1 ▸ inside
  exact ⟨_, List.getElem_mem inside', (agree.2 k inside' inside).2.2⟩

/-- From the output, and from every named query, a walk leaves room for all named queries. -/
theorem depth_add_offers_lt :
    (q.inflow ctx).depth + (q.offers ctx).length < (q.graph ctx).nodes.length ∧
      ∀ o ∈ q.offers ctx, o.inflow.depth + (q.offers ctx).length < (q.graph ctx).nodes.length := by
  have bound {n : Node} {f : Inflow} (hn : n ∈ (q.graph ctx).nodes) (other : n.kind ≠ .group)
      (yields : (q.graph ctx).Yields n.id f) :
      f.depth + (q.offers ctx).length < (q.graph ctx).nodes.length := by
    rw [← q.length_groupIds ctx]
    exact yields.depth_add_groups_lt (q.graph_forward ctx) (q.graph_wellFormed ctx)
      (Graph.notMem_groupIds (q.graph_nodup ctx) hn other)
  constructor
  · obtain ⟨id, output, only, yields⟩ := q.graph_inflow ctx
    obtain ⟨n, hn, shown⟩ := List.mem_filterMap.mp (only ▸ List.mem_singleton_self (id, output))
    obtain ⟨_, found, same⟩ := Option.map_eq_some_iff.mp shown
    cases same
    refine bound hn (fun group => ?_) yields
    rw [Node.output?_eq_none_iff.mpr (by rw [group]; nofun)] at found
    cases found
  · intro o ho
    obtain ⟨⟨id, r⟩, mem, yields⟩ := q.result_of_offer ctx ho
    obtain ⟨n, hn, rfl, data⟩ := Graph.mem_results.mp mem
    exact bound hn (by simp [Node.kind, data, NodeData.kind]) yields

/-- No search goes deeper than there are nodes exactly when, from every column of the main query,
the search passes through named queries for so long only that the walk along the edges behind them
still ends within the limit. This takes no more than that no search comes back to the name of a
query, and no less than that none gets into a circle. Where qualifiers are in scope, it holds
whenever an alias that is the name of its own or a later named query is known from an earlier one or
from a table. -/
theorem depth_within_nodes_iff :
    ((∀ x ∈ trails (q.graph ctx), x.2.cut = []) ↔
      ∀ col ∈ Builder.columnsOf ctx.dialect q.body, ∃ names last f,
        names.length ≤ (q.graph ctx).nodes.length ∧
        (q.names ctx).Passes names col (q.inflow ctx) last f ∧
        (q.names ctx).Rests ((q.graph ctx).nodes.length + 1 - names.length) last f) ∧
    ((∀ col ∈ Builder.columnsOf ctx.dialect q.body,
        ¬ (q.names ctx).ComesBack col (q.inflow ctx)) →
      ∀ x ∈ trails (q.graph ctx), x.2.cut = []) ∧
    ((∀ x ∈ trails (q.graph ctx), x.2.cut = []) →
      ∀ col ∈ Builder.columnsOf ctx.dialect q.body, ¬ (q.names ctx).Circles col (q.inflow ctx)) ∧
    (q.InScope → q.AliasesKnown → ∀ x ∈ trails (q.graph ctx), x.2.cut = []) := by
  have searches : (∀ x ∈ trails (q.graph ctx), x.2.cut = []) ↔
      ∀ col ∈ Builder.columnsOf ctx.dialect q.body, (q.search ctx col).cut = [] := by
    rw [trails_eq, List.forall_mem_map]
  obtain ⟨main, named⟩ := q.depth_add_offers_lt ctx
  have uncut {col : ColumnRef} (onward : ¬ (q.names ctx).ComesBack col (q.inflow ctx)) :
      (q.search ctx col).cut = [] :=
    Names.uncut_of_not_comesBack onward (Nat.lt_succ_of_lt main) fun o ho =>
      Nat.lt_succ_of_lt (named o ho)
  rw [searches]
  refine ⟨?_, fun onward col hc => uncut (onward col hc), ?_, fun scope known col _ => ?_⟩
  · simp only [search, Names.resolve_cut_iff, Nat.lt_succ_iff]
  · exact fun all col hc => Names.not_circles_of_uncut (all col hc)
  · exact uncut (names_ordered ctx scope known).not_comesBack

/-- `WITH a AS (SELECT b.x FROM t AS b), b AS (SELECT a.x FROM a) SELECT b.x FROM b` -/
theorem depth_within_nodes_later :
    laterAlias.InScope ∧ laterAlias.AliasesKnown ∧
      ∀ x ∈ trails (laterAlias.graph {}), x.2.cut = [] := by
  have scope : laterAlias.InScope := by decide +kernel
  have known : laterAlias.AliasesKnown := by decide +kernel
  exact ⟨scope, known, (depth_within_nodes_iff {} laterAlias).2.2.2 scope known⟩

/-- Behind the alias `a` the search for `a.x` comes back to the named query `a` itself. -/
theorem depth_beyond_nodes :
    ¬ ∀ (ctx : BuildContext) (q : Query), (q.bindings.map (·.name)).Nodup → q.InScope →
      ∀ x ∈ trails (q.graph ctx), x.2.cut = [] := by
  intro h
  have uncut := h {} ownAlias (by decide) (by decide +kernel)
  have found : trails (ownAlias.graph {}) = [("x", ⟨[⟨"a", "x"⟩], ["x"]⟩)] := by decide +kernel
  rw [found] at uncut
  exact absurd (uncut _ (List.mem_singleton_self _)) (by decide)

end Query

end QueryFlow
