import QueryFlow.Graph.Builder

/-!
Runs of a builder: any number of named and main queries, taken in any order. Beside the run stand
the first facts about its steps, namely what each of them leaves as it was. What a step adds is
said where it is used.
-/

namespace QueryFlow

namespace Builder

/-- One query handed to a builder. -/
inductive Call where
  | named (name : String) (body : Selection)
  | main (body : Selection)

def Call.name? : Call → Option String
  | .named name _ => some name
  | .main _ => none

def Call.body : Call → Selection
  | .named _ s => s
  | .main s => s

def take (ctx : BuildContext) (b : Builder) : Call → Builder
  | .named name body => b.takeNamed ctx name body
  | .main body => b.takeMain ctx body

/-- Take queries one after the other, from nothing. -/
def run (ctx : BuildContext) (calls : List Call) : Builder := calls.foldl (take ctx) {}

/-- What every call keeps holds after every run. -/
theorem run_invariant {ctx : BuildContext} {P : Builder → Prop} (start : P {})
    (step : ∀ b call, P b → P (take ctx b call)) (calls : List Call) : P (run ctx calls) := by
  suffices h : ∀ b, P b → P (calls.foldl (take ctx) b) from h {} start
  induction calls with
  | nil => exact fun _ hb => hb
  | cons call rest ih => exact fun b hb => ih _ (step b call hb)

/-- Nothing but colors and usage differs. -/
structure SameFlow (b c : Builder) : Prop where
  nodes : c.nodes = b.nodes
  edges : c.edges = b.edges
  counter : c.counter = b.counter
  results : c.results = b.results

theorem SameFlow.trans {a b c : Builder} (hab : SameFlow a b) (hbc : SameFlow b c) :
    SameFlow a c where
  nodes := hbc.nodes.trans hab.nodes
  edges := hbc.edges.trans hab.edges
  counter := hbc.counter.trans hab.counter
  results := hbc.results.trans hab.results

variable (ctx : BuildContext) (b : Builder)

theorem colorOf_sameFlow (table : String) : SameFlow b (b.colorOf table).2 := by
  unfold colorOf
  cases b.colors.lookup table with
  | some c => exact ⟨rfl, rfl, rfl, rfl⟩
  | none => exact ⟨rfl, rfl, rfl, rfl⟩

theorem colorAlias_sameFlow (shown : Option String) (color : Nat) :
    SameFlow b (b.colorAlias shown color) := by
  cases shown with
  | some a => exact ⟨rfl, rfl, rfl, rfl⟩
  | none => exact ⟨rfl, rfl, rfl, rfl⟩

/-- An entry is either bound to a result that is there, or it adds one node for its table. -/
theorem readEntry_cases (parent : Option String) (e : FromEntry) :
    (∃ id c, b.results.lookup e.table = some id ∧ b.readEntry ctx parent e = (id, c) ∧
      SameFlow b c) ∨
    (b.results.lookup e.table = none ∧ ∃ c columns color, SameFlow b c ∧
      b.readEntry ctx parent e =
        c.addNode parent (.table ⟨e.table, e.alias, columns, color⟩)) := by
  unfold readEntry
  cases hr : b.results.lookup e.table with
  | some id =>
    left
    cases b.colors.lookup e.table with
    | some color => exact ⟨id, _, rfl, rfl, colorAlias_sameFlow b e.alias color⟩
    | none => exact ⟨id, b, rfl, rfl, rfl, rfl, rfl, rfl⟩
  | none =>
    right
    exact ⟨rfl, _, _, _,
      (colorOf_sameFlow b e.table).trans (colorAlias_sameFlow _ e.alias _), rfl⟩

@[simp] theorem addNode_nodes (parent : Option String) (data : NodeData) :
    (b.addNode parent data).2.nodes =
      b.nodes ++ [⟨nodeId data.kind b.counter, data, parent⟩] := rfl

@[simp] theorem addNode_results (parent : Option String) (data : NodeData) :
    (b.addNode parent data).2.results = b.results := rfl

@[simp] theorem addEdgeFrom_nodes (source : Option String) (target : String)
    (columns : Option (List String)) :
    (b.addEdgeFrom source target columns).nodes = b.nodes := by
  cases source <;> rfl

@[simp] theorem addEdgeFrom_results (source : Option String) (target : String)
    (columns : Option (List String)) :
    (b.addEdgeFrom source target columns).results = b.results := by
  cases source <;> rfl

/-- WHERE as a step on the end of a chain. -/
def filtered (ctx : BuildContext) (parent : Option String) (s : Selection)
    (step : Option String × Builder) : Option String × Builder :=
  match s.condition with
  | some c => step.2.extend parent step.1 (.filter ⟨c.clauseText ctx.dialect⟩)
  | none => step

/-- GROUP BY as a step on the end of a chain. -/
def aggregated (ctx : BuildContext) (parent : Option String) (s : Selection)
    (step : Option String × Builder) : Option String × Builder :=
  if s.groupBy.isEmpty then step
  else step.2.extend parent step.1
    (.aggregation ⟨s.groupBy.map (Sql.Expr.clauseText ctx.dialect), aggregatesOf ctx.dialect s⟩)

/-- A SELECT without its result is a FROM clause with two optional steps behind it. -/
theorem takeInner_eq (parent : Option String) (s : Selection) :
    b.takeInner ctx parent s = aggregated ctx parent s (filtered ctx parent s
      (s.entries.foldl (takeEntry ctx parent)
        (none, { b with usage := Usage.ofSelection s }))) := by
  unfold takeInner aggregated filtered takeEntries
  cases s.condition <;> rfl

/-- The frame that a named query opens. -/
def opened (b : Builder) (name : String) : String × Builder :=
  { b with
    colors := Keyed.assign name b.nextColor b.colors
    nextColor := b.nextColor + 1 }.addNode none (.group ⟨name, b.nextColor⟩)

/-- A named query is a frame, a SELECT in it, and a result node at the end of its chain. -/
theorem takeNamed_eq (name : String) (s : Selection) :
    b.takeNamed ctx name s =
      let inner := (b.opened name).2.takeInner ctx (some (b.opened name).1) s
      let result := inner.2.addNode none (.named ⟨name, columnsOf ctx.dialect s,
        s.condition.isSome, !s.groupBy.isEmpty, b.nextColor⟩)
      let closed := result.2.addEdgeFrom inner.1 result.1 none
      { closed with results := Keyed.assign name result.1 closed.results } := rfl

/-- A main query is a SELECT with an output node at the end of its chain. -/
theorem takeMain_eq (s : Selection) :
    ∃ output : Output, output.columns = columnsOf ctx.dialect s ∧
      b.takeMain ctx s =
        let inner := b.takeInner ctx none s
        let result := inner.2.addNode none (.output output)
        result.2.addEdgeFrom inner.1 result.1 (some (output.columns.map (·.name))) :=
  ⟨⟨_, _, _, _⟩, rfl, rfl⟩

end Builder

namespace Query

def bindings : Query → List Binding
  | .select _ => []
  | .withBindings bs _ _ => bs

def body : Query → Selection
  | .select s => s
  | .withBindings _ s _ => s

/-- The builder after the named queries of a query. -/
def named (ctx : BuildContext) (q : Query) : Builder :=
  Builder.run ctx (q.bindings.map fun x => .named x.name x.body)

/-- A query is a run that ends in a main query. -/
theorem takeQuery_eq (ctx : BuildContext) (q : Query) :
    ({} : Builder).takeQuery ctx q = (q.named ctx).takeMain ctx q.body := by
  cases q with
  | select s => rfl
  | withBindings bs s recursive =>
    simp only [Builder.takeQuery, named, bindings, body, Builder.run, List.foldl_map]
    rfl

def calls (q : Query) : List Builder.Call :=
  (q.bindings.map fun x => .named x.name x.body) ++ [.main q.body]

theorem takeQuery_run (ctx : BuildContext) (q : Query) :
    ({} : Builder).takeQuery ctx q = Builder.run ctx q.calls := by
  rw [takeQuery_eq, calls, Builder.run, List.foldl_append]
  rfl

end Query

end QueryFlow
