import QueryFlow.Proofs.Builder.Run
import QueryFlow.Proofs.Graph.Views
import Mathlib.Data.List.Basic

/-!
What one call adds to a graph, said without the builder: the frame of a named query, a link for each
entry of the FROM clause, the steps of WHERE and GROUP BY, and the result. The edges follow from the
links and the steps. Beside the parts stand the facts about their nodes and edges that need nothing
but lists. That a run is made of such parts is shown elsewhere.
-/

namespace QueryFlow

open Sql

/-- An edge without its id. -/
structure Wire where
  source : String
  target : String
  columns : Option (List String)

/-- The edge without its id. -/
def Edge.wire (e : Edge) : Wire := ⟨e.source, e.target, e.columns⟩

/-- The columns on an edge into the node: those of an output, and none for any other step. -/
def Node.inputColumns (n : Node) : Option (List String) :=
  n.output?.map fun o => o.columns.map (·.name)

/-- The columns that the condition of a join refers to. -/
def JoinMarker.columns (m : JoinMarker) : List String :=
  (m.condition.map fun e => e.references.map (·.column)).getD []

def JoinMarker.toJoin (d : Dialect) (m : JoinMarker) : Join :=
  ⟨m.type, (m.condition.map (Expr.clauseText d)).getD ""⟩

def Selection.stepKinds (s : Selection) : List NodeKind :=
  (if s.condition.isSome then [.filter] else []) ++ if s.groupBy.isEmpty then [] else [.aggregation]

theorem Selection.mem_stepKinds {s : Selection} {k : NodeKind} :
    k ∈ s.stepKinds ↔
      k = .filter ∧ s.condition.isSome = true ∨ k = .aggregation ∧ s.groupBy.isEmpty = false := by
  unfold stepKinds
  cases s.condition.isSome <;> cases s.groupBy.isEmpty <;> simp

namespace Builder

/-- What an entry reads: the result of a named query, or the new node of a table. -/
inductive Input where
  | result (id : String)
  | table (node : Node)

namespace Input

/-- The node that is read. -/
def id : Input → String
  | result id => id
  | table n => n.id

def node? : Input → Option Node
  | result _ => none
  | table n => some n

/-- The entry reads this, where names mean these results. -/
def Answers (meaning : String → Option String) (parent : Option String) (e : FromEntry) :
    Input → Prop
  | result id => meaning e.table = some id
  | table n => meaning e.table = none ∧ n.parent = parent ∧
      ∃ t, n.data = .table t ∧ t.mention = e.mention

end Input

/-- What an entry comes to in the graph: its input, and the join with what stands in front. -/
structure Link where
  entry : FromEntry
  input : Input
  join : Option Node

namespace Link

/-- The nodes that are added for the entry. -/
def nodes (l : Link) : List Node := l.input.node?.toList ++ l.join.toList

/-- The end of the chain behind the entry. One that is not joined leaves behind what stands in
front of it. -/
def last (l : Link) : String := (l.join.map (·.id)).getD l.input.id

/-- The edges into the join: from what stands in front, and from the input. -/
def wires (l : Link) (front : Option String) : List Wire :=
  match front, l.join with
  | some left, some j =>
    [⟨left, j.id, l.entry.join.map (·.columns)⟩, ⟨l.input.id, j.id, l.entry.join.map (·.columns)⟩]
  | _, _ => []

/-- An entry is joined when it says so and something stands in front of it. -/
def Joins (d : Dialect) (parent front : Option String) (l : Link) : Prop :=
  match l.entry.join, front with
  | some m, some _ => ∃ n, l.join = some n ∧ n.parent = parent ∧ n.data = .join (m.toJoin d)
  | _, _ => l.join = none

end Link

def chainEnd (front : Option String) (links : List Link) : Option String :=
  links.foldl (fun _ l => some l.last) front

def chainWires : Option String → List Link → List Wire
  | _, [] => []
  | front, l :: rest => l.wires front ++ chainWires (some l.last) rest

def stepEnd (front : Option String) (steps : List Node) : Option String :=
  steps.foldl (fun _ n => some n.id) front

def stepWires : Option String → List Node → List Wire
  | _, [] => []
  | front, n :: rest =>
    (front.map fun p => ⟨p, n.id, n.inputColumns⟩).toList ++ stepWires (some n.id) rest

theorem stepWires_append (front : Option String) (steps more : List Node) :
    stepWires front (steps ++ more) =
      stepWires front steps ++ stepWires (stepEnd front steps) more := by
  induction steps generalizing front with
  | nil => rfl
  | cons n rest ih => simp [stepWires, stepEnd, ih]

theorem chainWires_append (front : Option String) (links more : List Link) :
    chainWires front (links ++ more) =
      chainWires front links ++ chainWires (chainEnd front links) more := by
  induction links generalizing front with
  | nil => rfl
  | cons l rest ih => simp [chainWires, chainEnd, ih]

/-- The links of a FROM clause: each entry reads what its name means and is joined or not. -/
inductive Linked (d : Dialect) (meaning : String → Option String) (parent : Option String) :
    Option String → List Link → Prop where
  | nil {front : Option String} : Linked d meaning parent front []
  | cons {front : Option String} {l : Link} {rest : List Link}
      (input : l.input.Answers meaning parent l.entry) (join : l.Joins d parent front)
      (others : Linked d meaning parent (some l.last) rest) :
      Linked d meaning parent front (l :: rest)

def Call.Opens : Call → Option Node → Prop
  | .named name _, some n => n.parent = none ∧ ∃ g, n.data = .group g ∧ g.name = name
  | .main _, none => True
  | _, _ => False

def Call.EndsIn (d : Dialect) : Call → Node → Prop
  | .named name s, n => n.parent = none ∧ ∃ r, n.data = .named r ∧ r.name = name ∧
      r.columns = columnsOf d s ∧ r.hasWhere = s.condition.isSome ∧
      r.hasGroupBy = !s.groupBy.isEmpty
  | .main s, n => n.parent = none ∧ ∃ o, n.data = .output o ∧ o.columns = columnsOf d s

/-- What a call adds to a graph. -/
structure Part where
  call : Call
  frame : Option Node
  links : List Link
  steps : List Node
  result : Node

namespace Part

/-- The parent of the nodes of the SELECT. -/
def parent (p : Part) : Option String := p.frame.map (·.id)

/-- The nodes between frame and result. -/
def inner (p : Part) : List Node := p.links.flatMap Link.nodes ++ p.steps

def nodes (p : Part) : List Node := p.frame.toList ++ p.inner ++ [p.result]

/-- The edges of the part, in order. -/
def wires (p : Part) : List Wire :=
  chainWires none p.links ++ stepWires (chainEnd none p.links) (p.steps ++ [p.result])

/-- What a name means behind some parts: the result of the last of them that has the name. -/
def latest? (parts : List Part) (name : String) : Option String :=
  (parts.reverse.find? (·.call.name? == some name)).map (·.result.id)

/-- The part is what its call adds where names mean these results. -/
structure Fits (ctx : BuildContext) (meaning : String → Option String) (p : Part) : Prop where
  frame : p.call.Opens p.frame
  entries : p.links.map (·.entry) = p.call.body.entries
  links : Linked ctx.dialect meaning p.parent none p.links
  steps : p.steps.map Node.kind = p.call.body.stepKinds
  inside : ∀ n ∈ p.steps, n.parent = p.parent
  result : p.call.EndsIn ctx.dialect p.result

theorem latest?_append (parts : List Part) (p : Part) (name : String) :
    latest? (parts ++ [p]) name =
      if p.call.name? = some name then some p.result.id else latest? parts name := by
  by_cases h : p.call.name? = some name <;> simp [latest?, h]

/-- The nodes of tables, in order. -/
def tables (p : Part) : List Node := p.links.flatMap (·.input.node?.toList)

def joins (p : Part) : List Node := p.links.flatMap (·.join.toList)

end Part

variable {ctx : BuildContext} {d : Dialect} {meaning : String → Option String}
  {parent front : Option String} {l : Link} {links : List Link} {p : Part}

theorem Link.Joins.cases (h : l.Joins d parent front) :
    l.join = none ∨ ∃ left j, front = some left ∧ l.join = some j ∧ j.kind = .join ∧
      j.parent = parent ∧ l.entry.join.isSome = true := by
  unfold Link.Joins at h
  split at h
  case h_1 m left hm =>
    obtain ⟨j, hj, hp, hd⟩ := h
    exact .inr ⟨left, j, rfl, hj, by rw [Node.kind, hd]; rfl, hp, by rw [hm]; rfl⟩
  case h_2 => exact .inl h

/-- An entry behind another is joined just when it says so. -/
theorem Link.Joins.isSome_iff {left : String} (h : l.Joins d parent (some left)) :
    l.join.isSome = true ↔ l.entry.join.isSome = true := by
  unfold Link.Joins at h
  cases hm : l.entry.join with
  | none => simp_all
  | some m =>
    rw [hm] at h
    obtain ⟨j, hj, _⟩ := h
    simp [hj]

theorem Input.Answers.of_node {i : Input} {e : FromEntry} (h : i.Answers meaning parent e)
    {n : Node} (hn : i.node? = some n) : n.kind = .table ∧ n.parent = parent := by
  cases i with
  | result id => cases hn
  | table m =>
    obtain ⟨_, hp, t, hd, _⟩ := h
    cases hn
    exact ⟨by rw [Node.kind, hd]; rfl, hp⟩

theorem Call.Opens.of_some {call : Call} {n : Node} (h : call.Opens (some n)) :
    n.kind = .group ∧ n.parent = none := by
  cases call with
  | named name s =>
    obtain ⟨hp, g, hd, _⟩ := h
    exact ⟨by rw [Node.kind, hd]; rfl, hp⟩
  | main s => exact h.elim

theorem Call.EndsIn.kind {call : Call} {n : Node} (h : call.EndsIn d n) :
    (n.kind = .named ∨ n.kind = .output) ∧ n.parent = none := by
  cases call with
  | named name s =>
    obtain ⟨hp, r, hd, _⟩ := h
    exact ⟨.inl (by rw [Node.kind, hd]; rfl), hp⟩
  | main s =>
    obtain ⟨hp, o, hd, _⟩ := h
    exact ⟨.inr (by rw [Node.kind, hd]; rfl), hp⟩

theorem Linked.forall_mem (h : Linked d meaning parent front links) :
    ∀ l ∈ links, l.input.Answers meaning parent l.entry ∧ ∃ front, l.Joins d parent front := by
  induction h with
  | nil => simp
  | cons input join _ ih => exact List.forall_mem_cons.mpr ⟨⟨input, _, join⟩, ih⟩

theorem Linked.split {more : List Link} (h : Linked d meaning parent front (links ++ more)) :
    Linked d meaning parent front links ∧ Linked d meaning parent (chainEnd front links) more := by
  induction links generalizing front with
  | nil => exact ⟨.nil, h⟩
  | cons l rest ih =>
    cases h with
    | cons input join others => exact ⟨.cons input join (ih others).1, (ih others).2⟩

namespace Part.Fits

theorem tables_kind (h : p.Fits ctx meaning) :
    ∀ n ∈ p.tables, n.kind = .table ∧ n.parent = p.parent := by
  intro n hn
  obtain ⟨l, hl, hn⟩ := List.mem_flatMap.mp hn
  exact (h.links.forall_mem l hl).1.of_node (Option.mem_toList.mp hn)

theorem joins_kind (h : p.Fits ctx meaning) :
    ∀ n ∈ p.joins, n.kind = .join ∧ n.parent = p.parent := by
  intro n hn
  obtain ⟨l, hl, hn⟩ := List.mem_flatMap.mp hn
  obtain ⟨front, join⟩ := (h.links.forall_mem l hl).2
  rcases join.cases with none | ⟨left, j, _, hj, hk, hp, _⟩
  · simp [none] at hn
  · obtain rfl : n = j := by simpa [hj] using hn
    exact ⟨hk, hp⟩

theorem steps_kind (h : p.Fits ctx meaning) :
    ∀ n ∈ p.steps, n.kind = .filter ∨ n.kind = .aggregation := by
  intro n hn
  have kind : n.kind ∈ p.call.body.stepKinds := h.steps ▸ List.mem_map_of_mem hn
  exact (Selection.mem_stepKinds.mp kind).imp And.left And.left

end Part.Fits

theorem Part.mem_inner {n : Node} : n ∈ p.inner ↔ n ∈ p.tables ∨ n ∈ p.joins ∨ n ∈ p.steps := by
  simp only [Part.inner, Part.tables, Part.joins, Link.nodes, List.mem_append, List.mem_flatMap,
    and_or_left, exists_or, or_assoc]

theorem Part.mem_nodes {n : Node} : n ∈ p.nodes ↔ n ∈ p.frame ∨ n ∈ p.inner ∨ n = p.result := by
  simp [Part.nodes]

theorem Part.inner_sublist (p : Part) : p.inner.Sublist p.nodes :=
  (List.sublist_append_right p.frame.toList p.inner).trans (List.sublist_append_left _ [p.result])

theorem Part.Fits.inner_kind (h : p.Fits ctx meaning) :
    ∀ n ∈ p.inner, n.kind.isInner = true ∧ n.parent = p.parent := by
  intro n hn
  rcases Part.mem_inner.mp hn with hn | hn | hn
  · obtain ⟨hk, hp⟩ := h.tables_kind n hn
    exact ⟨by rw [hk]; rfl, hp⟩
  · obtain ⟨hk, hp⟩ := h.joins_kind n hn
    exact ⟨by rw [hk]; rfl, hp⟩
  · refine ⟨?_, h.inside n hn⟩
    rcases h.steps_kind n hn with hk | hk <;> rw [hk] <;> rfl

theorem Part.Fits.inner_unnamed (h : p.Fits ctx meaning) {n : Node} (hn : n ∈ p.inner) :
    n.kind ≠ .named := by
  intro named
  have inner := (h.inner_kind n hn).1
  simp [named, NodeKind.isInner] at inner

/-- The nodes of a kind in a part are found in one place. -/
theorem Part.Fits.mem_of_kind (h : p.Fits ctx meaning) {n : Node} (hn : n ∈ p.nodes) :
    match n.kind with
    | .group => n ∈ p.frame
    | .table => n ∈ p.tables
    | .join => n ∈ p.joins
    | .filter | .aggregation => n ∈ p.steps
    | .named | .output => n = p.result := by
  rcases Part.mem_nodes.mp hn with hn | hn | rfl
  · have frame := h.frame
    rw [Option.mem_def.mp hn] at frame
    simpa [frame.of_some.1] using hn
  · rcases Part.mem_inner.mp hn with hn | hn | hn
    · simpa [(h.tables_kind n hn).1] using hn
    · simpa [(h.joins_kind n hn).1] using hn
    · rcases h.steps_kind n hn with hk | hk <;> simpa [hk] using hn
  · rcases h.result.kind.1 with hk | hk <;> simp [hk]

/-- Nodes of inner kinds stand nowhere in a part but between its frame and its result. -/
theorem Part.Fits.filter_inner (h : p.Fits ctx meaning) (keep : NodeKind → Bool)
    (inner : ∀ k, keep k = true → k.isInner = true) :
    p.nodes.filter (fun n => keep n.kind) = p.inner.filter fun n => keep n.kind := by
  have frame : p.frame.toList.filter (fun n => keep n.kind) = [] :=
    List.filter_eq_nil_iff.mpr fun n hn kept => by
      have opens := h.frame
      rw [Option.mem_toList.mp hn] at opens
      rw [opens.of_some.1] at kept
      exact Bool.false_ne_true (inner .group kept)
  have result : [p.result].filter (fun n => keep n.kind) = [] :=
    List.filter_eq_nil_iff.mpr fun n hn kept => by
      rw [List.mem_singleton.mp hn] at kept
      rcases h.result.kind.1 with ends | ends <;> rw [ends] at kept <;>
        exact Bool.false_ne_true (inner _ kept)
  rw [Part.nodes, List.filter_append, List.filter_append, frame, result, List.nil_append,
    List.append_nil]

/-- Tables and joins stand nowhere in a part but in its links. -/
theorem Part.Fits.filter_links (h : p.Fits ctx meaning) {k : NodeKind}
    (hk : k = .table ∨ k = .join) :
    p.nodes.filter (·.kind == k) = p.links.flatMap fun l => l.nodes.filter (·.kind == k) := by
  have inner : ∀ other, (other == k) = true → other.isInner = true := by
    rintro other same
    rw [beq_iff_eq.mp same]
    rcases hk with rfl | rfl <;> rfl
  have steps : p.steps.filter (·.kind == k) = [] :=
    List.filter_eq_nil_iff.mpr fun n hn => by
      rcases h.steps_kind n hn with step | step <;> rcases hk with rfl | rfl <;> simp [step]
  rw [h.filter_inner (· == k) inner, Part.inner, List.filter_append, steps, List.append_nil,
    List.filter_flatMap]

theorem Part.Fits.link_kinds (h : p.Fits ctx meaning) (hl : l ∈ p.links) :
    (∀ n ∈ l.input.node?.toList, n.kind = .table) ∧ ∀ n ∈ l.join.toList, n.kind = .join :=
  ⟨fun n hn => (h.tables_kind n (List.mem_flatMap.mpr ⟨l, hl, hn⟩)).1,
    fun n hn => (h.joins_kind n (List.mem_flatMap.mpr ⟨l, hl, hn⟩)).1⟩

/-- The tables of a part are those of its entries. -/
theorem Part.Fits.tables_eq (h : p.Fits ctx meaning) :
    p.nodes.filter (·.kind == .table) = p.tables := by
  rw [h.filter_links (.inl rfl), Part.tables]
  refine List.flatMap_congr fun l hl => ?_
  obtain ⟨read, joined⟩ := h.link_kinds hl
  rw [Link.nodes, List.filter_append, List.filter_eq_self.mpr fun n hn => by simp [read n hn],
    List.filter_eq_nil_iff.mpr fun n hn => by simp [joined n hn], List.append_nil]

/-- The joins of a part are those of its entries. -/
theorem Part.Fits.joins_eq (h : p.Fits ctx meaning) :
    p.nodes.filter (·.kind == .join) = p.joins := by
  rw [h.filter_links (.inr rfl), Part.joins]
  refine List.flatMap_congr fun l hl => ?_
  obtain ⟨read, joined⟩ := h.link_kinds hl
  rw [Link.nodes, List.filter_append, List.filter_eq_nil_iff.mpr fun n hn => by simp [read n hn],
    List.filter_eq_self.mpr fun n hn => by simp [joined n hn], List.nil_append]

/-- The ids at which edges may start because of an entry. -/
def Link.ends (l : Link) : List String := l.input.id :: l.join.toList.map (·.id)

/-- Every end is used once: the end of a chain is still free. -/
theorem chainWires_sources (front : Option String) (links : List Link) :
    ((chainWires front links).map (·.source) ++ (chainEnd front links).toList).Sublist
      (front.toList ++ links.flatMap Link.ends) := by
  induction links generalizing front with
  | nil => simp [chainWires, chainEnd]
  | cons l rest ih =>
    have head : ((l.wires front).map (·.source) ++ [l.last]).Sublist (front.toList ++ l.ends) := by
      cases hj : l.join with
      | none => simp [Link.wires, Link.last, Link.ends, hj]
      | some j => cases front <;> simp [Link.wires, Link.last, Link.ends, hj]
    have tail := (List.Sublist.refl ((l.wires front).map (·.source))).append (ih (some l.last))
    simp only [chainWires, List.map_append, List.append_assoc, List.flatMap_cons] at tail ⊢
    refine tail.trans ?_
    simpa using head.append (List.Sublist.refl (rest.flatMap Link.ends))

theorem stepWires_sources (front : Option String) (steps : List Node) (last : Node) :
    ((stepWires front (steps ++ [last])).map (·.source)).Sublist
      (front.toList ++ steps.map (·.id)) := by
  induction steps generalizing front with
  | nil => cases front <;> simp [stepWires]
  | cons n rest ih =>
    cases front with
    | none => simpa [stepWires] using ih (some n.id)
    | some left => simpa [stepWires] using ih (some n.id)

/-- Edges start at the front, an input, a join or a step, and no two of them at the same place. -/
theorem wires_sources (front : Option String) (links : List Link) (steps : List Node)
    (last : Node) :
    ((chainWires front links ++ stepWires (chainEnd front links) (steps ++ [last])).map
      (·.source)).Sublist (front.toList ++ links.flatMap Link.ends ++ steps.map (·.id)) := by
  have chain := chainWires_sources front links
  have steps := stepWires_sources (chainEnd front links) steps last
  rw [List.map_append]
  refine ((List.Sublist.refl _).append steps).trans ?_
  simpa only [List.append_assoc] using chain.append (List.Sublist.refl (_ : List String))

theorem Part.wires_sources (p : Part) :
    (p.wires.map (·.source)).Sublist (p.links.flatMap Link.ends ++ p.steps.map (·.id)) :=
  Builder.wires_sources none p.links p.steps p.result

theorem stepWires_targets (front : Option String) (steps : List Node) :
    ((stepWires front steps).map (·.target)).Sublist (steps.map (·.id)) := by
  induction steps generalizing front with
  | nil => simp [stepWires]
  | cons n rest ih =>
    cases front with
    | none => simpa [stepWires] using (ih (some n.id)).cons n.id
    | some left => simpa [stepWires] using (ih (some n.id)).cons_cons n.id

/-- Every join is the target of two edges. -/
theorem Linked.count_targets (h : Linked d meaning parent front links) (id : String) :
    ((chainWires front links).map (·.target)).count id =
      2 * ((links.flatMap (·.join.toList)).map (·.id)).count id := by
  induction h with
  | nil => rfl
  | @cons front l rest _ join _ ih =>
    have head : ((l.wires front).map (·.target)).count id =
        2 * (l.join.toList.map (·.id)).count id := by
      rcases join.cases with none | ⟨left, j, rfl, hj, _⟩
      · cases front <;> simp [Link.wires, none]
      · simp only [Link.wires, hj, List.map_cons, List.map_nil, Option.toList_some,
          List.count_cons, List.count_nil]
        omega
    rw [chainWires, List.map_append, List.count_append, head, ih, List.flatMap_cons,
      List.map_append, List.count_append]
    omega

/-- Among the ends, an id that no name means stands as often as among the added nodes. -/
theorem Linked.count_ends (h : Linked d meaning parent front links) {id : String}
    (free : ∀ name, meaning name ≠ some id) :
    (links.flatMap Link.ends).count id = ((links.flatMap Link.nodes).map (·.id)).count id := by
  induction h with
  | nil => rfl
  | @cons front l rest input _ _ ih =>
    have head : l.ends.count id = (l.nodes.map (·.id)).count id := by
      cases hi : l.input with
      | result other =>
        rw [hi] at input
        have apart : other ≠ id := fun same => free l.entry.table (same ▸ input)
        simp [Link.ends, Link.nodes, hi, Input.id, Input.node?, apart]
      | table n => simp [Link.ends, Link.nodes, hi, Input.id, Input.node?]
    simp only [List.flatMap_cons, List.map_append, List.count_append, head, ih]

/-- So such an id is an end only if an added node has it. -/
theorem Linked.mem_ends (h : Linked d meaning parent front links) {id : String}
    (free : ∀ name, meaning name ≠ some id) (he : id ∈ links.flatMap Link.ends) :
    id ∈ (links.flatMap Link.nodes).map (·.id) :=
  List.count_pos_iff.mp (h.count_ends free ▸ List.count_pos_iff.mpr he)

/-- An edge of a part starts inside of it or at what some name means. -/
theorem Part.Fits.source_mem (h : p.Fits ctx meaning) {w : Wire} (hw : w ∈ p.wires) :
    w.source ∈ p.inner.map (·.id) ∨ ∃ name, meaning name = some w.source := by
  have source := p.wires_sources.subset (List.mem_map_of_mem (f := (·.source)) hw)
  by_cases free : ∀ name, meaning name ≠ some w.source
  · left
    rw [Part.inner, List.map_append, List.mem_append]
    exact (List.mem_append.mp source).imp_left (h.links.mem_ends free)
  · right
    simpa using free

/-- The edges of a chain end at its own joins. -/
theorem Linked.target_mem (h : Linked d meaning parent front links) {w : Wire}
    (hw : w ∈ chainWires front links) : w.target ∈ (links.flatMap Link.nodes).map (·.id) := by
  have twice := h.count_targets w.target
  have here := List.count_pos_iff.mpr (List.mem_map_of_mem (f := (·.target)) hw)
  obtain ⟨j, hj, same⟩ := List.mem_map.mp (List.count_pos_iff.mp (by omega :
    0 < ((links.flatMap (·.join.toList)).map (·.id)).count w.target))
  obtain ⟨l, hl, hj⟩ := List.mem_flatMap.mp hj
  exact List.mem_map.mpr ⟨j, List.mem_flatMap.mpr ⟨l, hl, List.mem_append_right _ hj⟩, same⟩

/-- An edge of a part ends inside of it or at its result. -/
theorem Part.Fits.target_mem (h : p.Fits ctx meaning) {w : Wire} (hw : w ∈ p.wires) :
    w.target ∈ p.inner.map (·.id) ∨ w.target = p.result.id := by
  rw [Part.inner, List.map_append, List.mem_append, or_assoc]
  rcases List.mem_append.mp hw with chain | steps
  · exact .inl (h.links.target_mem chain)
  · have here := (stepWires_targets _ _).subset (List.mem_map_of_mem steps)
    rw [List.map_append, List.mem_append, List.map_singleton, List.mem_singleton] at here
    exact .inr here

end Builder

end QueryFlow
