import QueryFlow.Proofs.Builder.Run
import QueryFlow.Query.Flow

/-!
What a schema adds to the graph of a query. It fills the lists of columns in the tables and does
nothing else: with these lists emptied, every graph is the one that is built without a schema. The
builder does not look at the data of a node again, so emptying the lists commutes with each of its
steps. Nothing is said about what the lists hold.
-/

namespace QueryFlow

/-- The data without the columns that a table lists. -/
def NodeData.bare : NodeData → NodeData
  | .table t => .table { t with columns := [] }
  | data => data

@[simp] theorem NodeData.kind_bare (data : NodeData) : data.bare.kind = data.kind := by
  cases data <;> rfl

/-- The node without the columns that a table lists. -/
def Node.bare (n : Node) : Node := { n with data := n.data.bare }

/-- The graph without the columns that its tables list. -/
def Graph.bare (g : Graph) : Graph := { g with nodes := g.nodes.map Node.bare }

/-- The same dialect, and no table known. -/
def BuildContext.unaware (ctx : BuildContext) : BuildContext := { ctx with schema := [] }

@[simp] theorem BuildContext.unaware_dialect (ctx : BuildContext) :
    ctx.unaware.dialect = ctx.dialect := rfl

@[simp] theorem BuildContext.unaware_columns (ctx : BuildContext) (table : String) :
    ctx.unaware.columns table = [] := rfl

@[simp] theorem Usage.keep_nil (u : Usage) (table : String) (shown : Option String) :
    u.keep table shown [] = [] := by
  simp [keep]

namespace Builder

/-- The builder without the columns that its tables list. -/
def bare (b : Builder) : Builder := { b with nodes := b.nodes.map Node.bare }

variable (ctx : BuildContext) (b : Builder) (parent : Option String)

@[simp] theorem bare_colors : b.bare.colors = b.colors := rfl

@[simp] theorem bare_nextColor : b.bare.nextColor = b.nextColor := rfl

@[simp] theorem bare_results : b.bare.results = b.results := rfl

theorem addNode_bare {data data' : NodeData} (h : data' = data.bare) :
    b.bare.addNode parent data' = (b.addNode parent data).map id bare := by
  simp [h, addNode, bare, Node.bare]

theorem addEdgeFrom_bare (source : Option String) (target : String)
    (columns : Option (List String)) :
    b.bare.addEdgeFrom source target columns = (b.addEdgeFrom source target columns).bare := by
  cases source <;> rfl

theorem colorOf_bare (table : String) :
    b.bare.colorOf table = (b.colorOf table).map id bare := by
  unfold colorOf
  rw [bare_colors]
  cases b.colors.lookup table <;> rfl

theorem colorAlias_bare (shown : Option String) (color : Nat) :
    b.bare.colorAlias shown color = (b.colorAlias shown color).bare := by
  cases shown <;> rfl

/-- The one step that looks at the schema. -/
theorem addTable_bare (table : String) (shown : Option String) :
    b.bare.addTable ctx.unaware parent table shown =
      (b.addTable ctx parent table shown).map id bare := by
  unfold addTable
  rw [colorOf_bare]
  generalize b.colorOf table = colored
  obtain ⟨color, c⟩ := colored
  simp only [Prod.map_apply, id_eq, colorAlias_bare, BuildContext.unaware_columns, Usage.keep_nil]
  exact addNode_bare _ parent rfl

theorem readEntry_bare (e : FromEntry) :
    b.bare.readEntry ctx.unaware parent e = (b.readEntry ctx parent e).map id bare := by
  unfold readEntry
  rw [bare_results, bare_colors]
  cases b.results.lookup e.table with
  | none => exact addTable_bare ctx b parent e.table e.alias
  | some id =>
    cases b.colors.lookup e.table with
    | none => rfl
    | some color => simp [colorAlias_bare]

theorem addJoin_bare (marker : JoinMarker) (left right : String) :
    b.bare.addJoin ctx.unaware parent marker left right =
      (b.addJoin ctx parent marker left right).map id bare := by
  simp [addJoin, addNode, addEdge, bare, Node.bare, NodeData.bare]

theorem takeEntry_bare (step : Option String × Builder) (e : FromEntry) :
    takeEntry ctx.unaware parent (step.map id bare) e =
      (takeEntry ctx parent step e).map id bare := by
  obtain ⟨last, b⟩ := step
  have read := readEntry_bare ctx b parent e
  unfold takeEntry
  cases e.join with
  | none => simp [read]
  | some marker =>
    cases last with
    | none => simp [read]
    | some left => simp [read, addJoin_bare]

theorem extend_bare (last : Option String) {data : NodeData} (h : data = data.bare) :
    b.bare.extend parent last data = (b.extend parent last data).map id bare := by
  simp [extend, addNode_bare b parent h, addEdgeFrom_bare]

theorem filtered_bare (s : Selection) (step : Option String × Builder) :
    filtered ctx.unaware parent s (step.map id bare) =
      (filtered ctx parent s step).map id bare := by
  unfold filtered
  cases s.condition with
  | none => rfl
  | some c => exact extend_bare step.2 parent step.1 rfl

theorem aggregated_bare (s : Selection) (step : Option String × Builder) :
    aggregated ctx.unaware parent s (step.map id bare) =
      (aggregated ctx parent s step).map id bare := by
  unfold aggregated
  split
  · rfl
  · exact extend_bare step.2 parent step.1 rfl

theorem takeInner_bare (s : Selection) :
    b.bare.takeInner ctx.unaware parent s = (b.takeInner ctx parent s).map id bare := by
  rw [takeInner_eq, takeInner_eq, ← aggregated_bare, ← filtered_bare,
    ← List.foldl_hom (Prod.map id bare) (takeEntry_bare ctx parent)]
  rfl

theorem opened_bare (name : String) :
    b.bare.opened name = (b.opened name).map id bare := by
  unfold opened
  exact addNode_bare { b with
    colors := Keyed.assign name b.nextColor b.colors
    nextColor := b.nextColor + 1 } none rfl

theorem takeNamed_bare (name : String) (s : Selection) :
    b.bare.takeNamed ctx.unaware name s = (b.takeNamed ctx name s).bare := by
  rw [takeNamed_eq, takeNamed_eq, opened_bare]
  simp only [Prod.map_fst, Prod.map_snd, id_eq, takeInner_bare, bare_nextColor,
    BuildContext.unaware_dialect]
  generalize (b.opened name).2.takeInner ctx (some (b.opened name).1) s = inner
  have result (r : NamedResult) : inner.2.bare.addNode none (.named r) =
      (inner.2.addNode none (.named r)).map id bare := addNode_bare inner.2 none rfl
  simp only [result, Prod.map_fst, Prod.map_snd, id_eq, addEdgeFrom_bare]
  rfl

theorem takeMain_bare (s : Selection) :
    b.bare.takeMain ctx.unaware s = (b.takeMain ctx s).bare := by
  unfold takeMain
  rw [takeInner_bare]
  generalize b.takeInner ctx none s = inner
  obtain ⟨last, c⟩ := inner
  simp only [Prod.map_apply, id_eq, bare_colors, BuildContext.unaware_dialect]
  have result (o : Output) : c.bare.addNode none (.output o) =
      (c.addNode none (.output o)).map id bare := addNode_bare c none rfl
  simp only [result, Prod.map_fst, Prod.map_snd, id_eq, addEdgeFrom_bare]

theorem takeQuery_bare (q : Query) :
    b.bare.takeQuery ctx.unaware q = (b.takeQuery ctx q).bare := by
  cases q with
  | select body => exact takeMain_bare ctx b body
  | withBindings bindings body recursive =>
    have named : bindings.foldl (fun b x => b.takeNamed ctx.unaware x.name x.body) b.bare =
        (bindings.foldl (fun b x => b.takeNamed ctx x.name x.body) b).bare :=
      List.foldl_hom bare fun b x => takeNamed_bare ctx b x.name x.body
    simp only [takeQuery, named, takeMain_bare]

end Builder

/-- With the columns of its tables emptied, the graph of a query is the one without a schema. -/
theorem Query.graph_bare (ctx : BuildContext) (q : Query) :
    (q.graph ctx).bare = q.graph ctx.unaware :=
  congrArg Builder.graph (Builder.takeQuery_bare ctx {} q).symm

/-- Whatever tables are known, a statement has a flow graph or has none, and but for the columns
that tables list, the graph is one and the same. -/
theorem flow_bare_eq (dialect : Sql.Dialect) (schema schema' : List Schema.Table)
    (s : Sql.Statement) :
    (s.flow ⟨dialect, schema⟩).map Graph.bare = (s.flow ⟨dialect, schema'⟩).map Graph.bare := by
  unfold Sql.Statement.flow
  cases Query.ofStatement? s with
  | none => rfl
  | some q =>
    have same : (q.graph ⟨dialect, schema⟩).bare = (q.graph ⟨dialect, schema'⟩).bare := by
      rw [q.graph_bare, q.graph_bare]
      rfl
    exact congrArg Except.ok same

end QueryFlow
