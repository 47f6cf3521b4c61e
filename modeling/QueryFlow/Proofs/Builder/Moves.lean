import QueryFlow.Proofs.Builder.Run
import Mathlib.Logic.Relation

/-!
The moves that a builder makes: it adds a node or an edge, binds a name to a result, or changes
nothing that edges and nodes depend on. The main statement says that every call is a chain of such
moves, so that what each move keeps is kept by every run. Which moves a call makes, and how many of
them, is not told.
-/

namespace QueryFlow.Builder

open Relation

/-- One move of a builder. -/
inductive Move : Builder → Builder → Prop
  | same {b c : Builder} (h : SameFlow b c) : Move b c
  | node (b : Builder) (parent : Option String) (data : NodeData) :
      Move b (b.addNode parent data).2
  | edge (b : Builder) (source target : String) (columns : Option (List String)) :
      Move b (b.addEdge source target columns)
  | bind (b : Builder) (name id : String) :
      Move b { b with results := Keyed.assign name id b.results }

/-- Any number of moves, one after the other. -/
abbrev Moves : Builder → Builder → Prop := ReflTransGen Move

variable {ctx : BuildContext} {b c : Builder} {parent : Option String}

theorem SameFlow.moves (h : SameFlow b c) : Moves b c := .single (.same h)

theorem addNode_moves (b : Builder) (parent : Option String) (data : NodeData) :
    Moves b (b.addNode parent data).2 := .single (.node b parent data)

theorem addEdge_moves (b : Builder) (source target : String) (columns : Option (List String)) :
    Moves b (b.addEdge source target columns) := .single (.edge b source target columns)

theorem addEdgeFrom_moves (b : Builder) (source : Option String) (target : String)
    (columns : Option (List String)) : Moves b (b.addEdgeFrom source target columns) := by
  cases source with
  | none => exact .refl
  | some left => exact addEdge_moves b left target columns

theorem readEntry_moves (ctx : BuildContext) (b : Builder) (parent : Option String)
    (e : FromEntry) : Moves b (b.readEntry ctx parent e).2 := by
  rcases readEntry_cases ctx b parent e with ⟨id, c, _, read, same⟩ | ⟨_, c, _, _, same, read⟩
  · rw [read]
    exact same.moves
  · rw [read]
    exact same.moves.trans (addNode_moves c parent _)

theorem addJoin_moves (ctx : BuildContext) (b : Builder) (parent : Option String) (m : JoinMarker)
    (left right : String) : Moves b (b.addJoin ctx parent m left right).2 := by
  let join : NodeData := .join ⟨m.type, (m.condition.map (Sql.Expr.clauseText ctx.dialect)).getD ""⟩
  have added := addNode_moves b parent join
  exact added.trans ((addEdge_moves _ left _ _).trans (addEdge_moves _ right _ _))

theorem takeEntry_moves (step : Option String × Builder) (e : FromEntry) :
    Moves step.2 (takeEntry ctx parent step e).2 := by
  obtain ⟨last, b⟩ := step
  have read := readEntry_moves ctx b parent e
  unfold takeEntry
  cases e.join with
  | none => exact read
  | some marker =>
    cases last with
    | none => exact read
    | some left => exact read.trans (addJoin_moves ctx _ parent marker left _)

theorem takeEntries_moves (entries : List FromEntry) (step : Option String × Builder) :
    Moves step.2 (entries.foldl (takeEntry ctx parent) step).2 := by
  induction entries generalizing step with
  | nil => exact .refl
  | cons e rest ih => exact (takeEntry_moves step e).trans (ih _)

theorem extend_moves (b : Builder) (parent last : Option String) (data : NodeData) :
    Moves b (b.extend parent last data).2 :=
  (addNode_moves b parent data).trans (addEdgeFrom_moves _ last _ none)

theorem filtered_moves (s : Selection) (step : Option String × Builder) :
    Moves step.2 (filtered ctx parent s step).2 := by
  unfold filtered
  cases s.condition with
  | none => exact .refl
  | some c => exact extend_moves _ _ _ _

theorem aggregated_moves (s : Selection) (step : Option String × Builder) :
    Moves step.2 (aggregated ctx parent s step).2 := by
  unfold aggregated
  split
  · exact .refl
  · exact extend_moves _ _ _ _

theorem takeInner_moves (ctx : BuildContext) (b : Builder) (parent : Option String)
    (s : Selection) : Moves b (b.takeInner ctx parent s).2 := by
  rw [takeInner_eq]
  let start : Option String × Builder := (none, { b with usage := Usage.ofSelection s })
  have same : SameFlow b start.2 := ⟨rfl, rfl, rfl, rfl⟩
  let chain := s.entries.foldl (takeEntry ctx parent) start
  have chained : Moves start.2 chain.2 := takeEntries_moves s.entries start
  have narrowed : Moves chain.2 (filtered ctx parent s chain).2 := filtered_moves s chain
  exact same.moves.trans (chained.trans (narrowed.trans (aggregated_moves s _)))

theorem opened_moves (b : Builder) (name : String) : Moves b (b.opened name).2 := by
  let colored : Builder :=
    { b with colors := Keyed.assign name b.nextColor b.colors, nextColor := b.nextColor + 1 }
  have same : SameFlow b colored := ⟨rfl, rfl, rfl, rfl⟩
  exact same.moves.trans (addNode_moves colored none (.group ⟨name, b.nextColor⟩))

/-- Every call is a chain of moves. -/
theorem take_moves (ctx : BuildContext) (b : Builder) (call : Call) :
    Moves b (take ctx b call) := by
  cases call with
  | named name s =>
    rw [take, takeNamed_eq]
    have inner := (opened_moves b name).trans
      (takeInner_moves ctx (b.opened name).2 (some (b.opened name).1) s)
    generalize (b.opened name).2.takeInner ctx (some (b.opened name).1) s = before at *
    let result := before.2.addNode none (.named ⟨name, columnsOf ctx.dialect s,
      s.condition.isSome, !s.groupBy.isEmpty, b.nextColor⟩)
    have closed := (inner.trans (addNode_moves before.2 none _)).trans
      (addEdgeFrom_moves result.2 before.1 result.1 none)
    exact closed.trans (.single (.bind _ name result.1))
  | main s =>
    obtain ⟨output, _, taken⟩ := takeMain_eq ctx b s
    rw [take, taken]
    have inner := (takeInner_moves ctx b none s).trans (addNode_moves _ none (.output output))
    exact inner.trans (addEdgeFrom_moves _ _ _ _)

/-- A run is a chain of moves from nothing. -/
theorem run_moves (ctx : BuildContext) (calls : List Call) : Moves {} (run ctx calls) :=
  run_invariant (P := Moves {}) .refl (fun b call done => done.trans (take_moves ctx b call)) calls

end QueryFlow.Builder
