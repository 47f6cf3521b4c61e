import QueryFlow.Proofs.Builder.Moves
import QueryFlow.Proofs.Colors.Draws

/-!
What calls leave as it was. A builder adds nodes and edges only behind those that are there, and a
call binds no name but its own. A color stays with a name unless a call binds the name or gives it
as an alias. The main statement says this of every state that a run gets into and of all calls that
follow, together with the ids of nodes, which are made of kinds and places. Which nodes and edges
are added is not told.
-/

namespace QueryFlow.Builder

/-- The names that a call gives: the one that it binds, and the aliases of its entries. -/
def Call.given (call : Call) : List String :=
  call.name?.toList ++ call.body.entries.filterMap (·.alias)

/-- What is in the first builder is the same in the second, apart from what stands under the names
that the calls bind or give. -/
structure Keeps (calls : List Call) (b c : Builder) : Prop where
  nodes : b.nodes <+: c.nodes
  edges : b.edges <+: c.edges
  results : ∀ name, (∀ call ∈ calls, call.name? ≠ some name) →
    c.results.lookup name = b.results.lookup name
  colors : ∀ name color, (∀ call ∈ calls, name ∉ call.given) →
    b.colors.lookup name = some color → c.colors.lookup name = some color

variable {ctx : BuildContext} {b c d : Builder} {parent : Option String}

/-- A move adds at most one node or one edge, and that at the end. -/
theorem Move.appends (move : Move b c) : b.nodes <+: c.nodes ∧ b.edges <+: c.edges := by
  cases move with
  | same same => exact ⟨same.nodes ▸ List.prefix_rfl, same.edges ▸ List.prefix_rfl⟩
  | node parent data => exact ⟨List.prefix_append _ _, List.prefix_rfl⟩
  | edge source target columns => exact ⟨List.prefix_rfl, List.prefix_append _ _⟩
  | bind name id => exact ⟨List.prefix_rfl, List.prefix_rfl⟩

theorem Moves.appends (moves : Moves b c) : b.nodes <+: c.nodes ∧ b.edges <+: c.edges := by
  induction moves with
  | refl => exact ⟨List.prefix_rfl, List.prefix_rfl⟩
  | tail _ move ih => exact ⟨ih.1.trans move.appends.1, ih.2.trans move.appends.2⟩

/-- A call binds no name but its own. -/
theorem take_lookup_of_ne (ctx : BuildContext) (b : Builder) {call : Call} {name : String}
    (other : call.name? ≠ some name) :
    (take ctx b call).results.lookup name = b.results.lookup name := by
  obtain ⟨p, rfl, gains⟩ := take_gains ctx b call
  exact (gains.meaning name).trans (if_neg other)

section Colors

variable {name : String} {color : Nat}

/-- A table draws a color only when it has none. -/
theorem colorOf_keeps (h : b.colors.lookup name = some color) (table : String) :
    (b.colorOf table).2.colors.lookup name = some color := by
  unfold colorOf
  cases found : b.colors.lookup table with
  | some own => exact h
  | none =>
    have other : name ≠ table := by
      rintro rfl
      rw [found] at h
      cases h
    exact (Keyed.lookup_assign_of_ne _ _ other).trans h

theorem colorAlias_keeps (h : b.colors.lookup name = some color) {shown : Option String}
    (other : shown ≠ some name) (lent : Nat) :
    (b.colorAlias shown lent).colors.lookup name = some color := by
  cases shown with
  | none => exact h
  | some a =>
    have ne : name ≠ a := fun same => other (congrArg some same.symm)
    exact (Keyed.lookup_assign_of_ne _ _ ne).trans h

theorem readEntry_keeps (ctx : BuildContext) (parent : Option String)
    (h : b.colors.lookup name = some color) {e : FromEntry} (other : e.alias ≠ some name) :
    (b.readEntry ctx parent e).2.colors.lookup name = some color := by
  unfold readEntry
  cases b.results.lookup e.table with
  | none => exact colorAlias_keeps (colorOf_keeps h e.table) other _
  | some id =>
    cases b.colors.lookup e.table with
    | none => exact h
    | some lent => exact colorAlias_keeps h other lent

theorem takeEntries_keeps {entries : List FromEntry}
    (other : ∀ e ∈ entries, e.alias ≠ some name) {step : Option String × Builder}
    (h : step.2.colors.lookup name = some color) :
    (entries.foldl (takeEntry ctx parent) step).2.colors.lookup name = some color := by
  induction entries generalizing step with
  | nil => exact h
  | cons e rest ih =>
    obtain ⟨here, there⟩ := List.forall_mem_cons.mp other
    have read := readEntry_keeps ctx parent h here
    rw [← (takeEntry_sameColors ctx parent step.1 step.2 e).colors] at read
    exact ih there read

theorem takeInner_keeps (ctx : BuildContext) (parent : Option String) {s : Selection}
    (other : ∀ e ∈ s.entries, e.alias ≠ some name) (h : b.colors.lookup name = some color) :
    (b.takeInner ctx parent s).2.colors.lookup name = some color := by
  rw [(takeInner_sameColors ctx b parent s).colors]
  exact takeEntries_keeps other h

/-- A call leaves the color of a name that it does not give. -/
theorem take_keeps_color {call : Call} (other : name ∉ call.given)
    (h : b.colors.lookup name = some color) :
    (take ctx b call).colors.lookup name = some color := by
  simp only [Call.given, List.mem_append, Option.mem_toList, List.mem_filterMap, not_or, not_exists,
    not_and] at other
  obtain ⟨unbound, aliases⟩ := other
  cases call with
  | named own s =>
    have ne : name ≠ own := fun same => unbound (same ▸ rfl)
    have opened : (b.opened own).2.colors.lookup name = some color :=
      (Keyed.lookup_assign_of_ne _ _ ne).trans h
    have inner := takeInner_keeps ctx (some (b.opened own).1) (s := s) aliases opened
    rw [take, takeNamed_eq]
    generalize (b.opened own).2.takeInner ctx (some (b.opened own).1) s = before at *
    change ((before.2.addNode none _).2.addEdgeFrom before.1 _ none).colors.lookup name = some color
    rwa [(addEdgeFrom_sameColors _ before.1 _ none).colors]
  | main s =>
    have inner := takeInner_keeps ctx none (s := s) aliases h
    obtain ⟨output, _, taken⟩ := takeMain_eq ctx b s
    rw [take, taken]
    generalize b.takeInner ctx none s = before at *
    change ((before.2.addNode none _).2.addEdgeFrom before.1 _ _).colors.lookup name = some color
    rwa [(addEdgeFrom_sameColors _ before.1 _ _).colors]

end Colors

theorem take_keeps (ctx : BuildContext) (b : Builder) (call : Call) :
    Keeps [call] b (take ctx b call) where
  nodes := (take_moves ctx b call).appends.1
  edges := (take_moves ctx b call).appends.2
  results _ other := take_lookup_of_ne ctx b (other call (List.mem_singleton_self call))
  colors _ _ other h := take_keeps_color (other call (List.mem_singleton_self call)) h

theorem Keeps.refl (b : Builder) : Keeps [] b b :=
  ⟨List.prefix_rfl, List.prefix_rfl, fun _ _ => rfl, fun _ _ _ h => h⟩

theorem Keeps.trans {calls more : List Call} (h : Keeps calls b c) (h' : Keeps more c d) :
    Keeps (calls ++ more) b d where
  nodes := h.nodes.trans h'.nodes
  edges := h.edges.trans h'.edges
  results name other := by
    obtain ⟨first, second⟩ := List.forall_mem_append.mp other
    rw [h'.results name second, h.results name first]
  colors name color other found := by
    obtain ⟨first, second⟩ := List.forall_mem_append.mp other
    exact h'.colors name color second (h.colors name color first found)

/-- Calls that follow keep what is there. -/
theorem foldl_keeps (ctx : BuildContext) (calls : List Call) (b : Builder) :
    Keeps calls b (calls.foldl (take ctx) b) := by
  induction calls generalizing b with
  | nil => exact .refl b
  | cons call rest ih => exact (take_keeps ctx b call).trans (ih _)

/-- In every state that a run gets into, the counter is the number of nodes, and the id of a node
is made of its kind and its place. Each call, and so any number of calls that follow, only adds
nodes and edges behind those that are there; a name that it does not bind keeps its result, and a
name that it does not give keeps its color. -/
theorem run_appends (ctx : BuildContext) (calls : List Call) :
    (run ctx calls).counter = (run ctx calls).nodes.length ∧
      (∀ (i : Nat) (n : Node), (run ctx calls).nodes[i]? = some n →
        n.id = idStart n.kind ++ "_" ++ toString i) ∧
      (∀ call, Keeps [call] (run ctx calls) (take ctx (run ctx calls) call)) ∧
      ∀ more, Keeps more (run ctx calls) (run ctx (calls ++ more)) := by
  have sound := run_sound ctx calls
  refine ⟨sound.counted, sound.numbered, take_keeps ctx _, fun more => ?_⟩
  rw [run, run, List.foldl_append]
  exact foldl_keeps ctx more _

end QueryFlow.Builder
