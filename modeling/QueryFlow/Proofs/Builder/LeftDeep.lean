import QueryFlow.Proofs.Builder.Count
import QueryFlow.Proofs.Builder.Degrees

/-!
The shape of one SELECT. Where each entry but the first is joined, the joins form a left-deep chain:
each of them is fed by the link in front of it and then by its own entry. WHERE, GROUP BY and the
result stand behind the joins, and each is fed by the last link in front of it. The main statement
says this of every call in every state that a builder gets into. Entries that only a comma parts
from the others are not considered.
-/

namespace QueryFlow

open Sql

def NodeKind.isStep : NodeKind → Bool
  | .filter | .aggregation => true
  | _ => false

namespace Builder

/-- The last link of a part, where these are the steps behind its FROM clause. -/
def Part.lastLink? (p : Part) (steps : List Node) : Option String :=
  (p.links.map Link.last ++ steps.map (·.id)).getLast?

/-- The joins of a part form a left-deep chain in a graph, and the steps continue it. -/
structure Part.LeftDeep (d : Dialect) (g : Graph) (p : Part) : Prop where
  /-- There is a join for each entry but the first, and no other. -/
  joins : p.nodes.filter (·.kind == .join) = p.joins ∧
    p.joins.length = p.call.body.entries.length - 1
  /-- The chain begins with what the first entry reads. -/
  first : ∀ l ∈ p.links.head?, l.last = l.input.id
  /-- Two edges lead into a join, from the link in front and then from what its entry reads. -/
  joined : ∀ front previous l back, p.links = front ++ previous :: l :: back →
    ∃ m j t, l.entry.join = some m ∧ p.joins[front.length]? = some j ∧ l.last = j.id ∧
      j.data = .join t ∧ m.type.text = t.type.label ++ " JOIN" ∧
      t.condition = (m.condition.map (Expr.clauseText d)).getD "" ∧
      (g.incoming j.id).map Edge.wire =
        [⟨previous.last, j.id, some m.columns⟩, ⟨l.input.id, j.id, some m.columns⟩]
  /-- WHERE and GROUP BY have one step each, in this order. -/
  steps : p.nodes.filter (·.kind.isStep) = p.steps ∧
    p.steps.map Node.kind = p.call.body.stepKinds
  /-- One edge leads into a step or the result, from the last link in front if there is one. -/
  fed : ∀ front n back, p.steps ++ [p.result] = front ++ n :: back →
    (g.incoming n.id).map Edge.wire =
      (p.lastLink? front).toList.map fun previous => ⟨previous, n.id, n.inputColumns⟩

variable {ctx : BuildContext} {d : Dialect} {meaning : String → Option String}
  {parent front : Option String} {links : List Link} {parts : List Part} {p : Part} {n : Node}

theorem chainEnd_eq (links : List Link) : chainEnd none links = (links.map Link.last).getLast? := by
  induction links using List.reverseRecOn with
  | nil => rfl
  | append_singleton links l _ => simp [chainEnd]

theorem stepEnd_eq (front : Option String) (steps : List Node) :
    stepEnd front steps = (front.toList ++ steps.map (·.id)).getLast? := by
  induction steps using List.reverseRecOn with
  | nil => cases front <;> rfl
  | append_singleton steps n _ => simp [stepEnd]

/-- The chain behind some steps ends in the last link. -/
theorem Part.stepEnd_chainEnd (p : Part) (steps : List Node) :
    stepEnd (chainEnd none p.links) steps = p.lastLink? steps := by
  rw [stepEnd_eq, chainEnd_eq, Part.lastLink?, List.getLast?_append, List.getLast?_append]
  cases (p.links.map Link.last).getLast? <;> rfl

/-- The steps of a part are those behind its FROM clause. -/
theorem Part.Fits.steps_eq (h : p.Fits ctx meaning) : p.nodes.filter (·.kind.isStep) = p.steps := by
  have inner : ∀ k : NodeKind, k.isStep = true → k.isInner = true := by
    intro k
    cases k <;> decide
  have links : (p.links.flatMap Link.nodes).filter (·.kind.isStep) = [] :=
    List.filter_eq_nil_iff.mpr fun n hn => by
      obtain ⟨l, hl, hn⟩ := List.mem_flatMap.mp hn
      obtain ⟨read, joined⟩ := h.link_kinds hl
      rcases List.mem_append.mp hn with hn | hn
      · simp [read n hn, NodeKind.isStep]
      · simp [joined n hn, NodeKind.isStep]
  have steps : p.steps.filter (·.kind.isStep) = p.steps :=
    List.filter_eq_self.mpr fun n hn => by
      rcases h.steps_kind n hn with step | step <;> rw [step] <;> rfl
  rw [h.filter_inner NodeKind.isStep inner, Part.inner, List.filter_append, links, steps,
    List.nil_append]

/-- The first entry has nothing to be joined with. -/
theorem Linked.first_alone {l : Link} (h : Linked d meaning parent none links)
    (hl : l ∈ links.head?) : l.join = none := by
  obtain ⟨rest, rfl⟩ := List.head?_eq_some_iff.mp hl
  cases h with
  | cons _ join _ =>
    rcases join.cases with none | ⟨_, _, front, _⟩
    · exact none
    · cases front

/-- Where each entry but the first says so, each of them is joined. -/
theorem Linked.length_joins_of_marked (h : Linked d meaning parent none links)
    (marked : ∀ e ∈ (links.map (·.entry)).tail, e.join.isSome = true) :
    (links.flatMap (·.join.toList)).length = links.length - 1 := by
  rw [h.length_joins_start, List.countP_eq_length.mpr marked, List.length_tail, List.length_map]

/-- An entry behind another has its own join. -/
theorem Linked.joined {front back : List Link} {previous l : Link}
    (h : Linked d meaning parent none (front ++ previous :: l :: back))
    (marked : ∀ e ∈ ((front ++ previous :: l :: back).map (·.entry)).tail, e.join.isSome = true) :
    ∃ m j, l.entry.join = some m ∧ l.join = some j ∧ j.data = .join (m.toJoin d) ∧
      ((front ++ previous :: l :: back).flatMap (·.join.toList))[front.length]? = some j := by
  rw [List.append_cons] at h marked ⊢
  have behind : chainEnd none (front ++ [previous]) = some previous.last := by simp [chainEnd]
  have entry : l.entry.join.isSome = true := marked l.entry (by cases front <;> simp)
  have before : ∀ e ∈ ((front ++ [previous]).map (·.entry)).tail, e.join.isSome = true :=
    fun e he => marked e (by
      rw [List.map_append, List.tail_append_of_ne_nil (by simp)]
      exact List.mem_append_left _ he)
  obtain ⟨first, rest⟩ := h.split
  have place : ((front ++ [previous]).flatMap (·.join.toList)).length = front.length := by
    rw [first.length_joins_of_marked before, List.length_append]
    rfl
  rw [behind] at rest
  obtain ⟨m, hm⟩ := Option.isSome_iff_exists.mp entry
  cases rest with
  | cons _ join _ =>
    simp only [Link.Joins, hm] at join
    obtain ⟨j, hj, _, hd⟩ := join
    refine ⟨m, j, hm, hj, hd, ?_⟩
    rw [List.flatMap_append, List.getElem?_append_right (Nat.le_of_eq place), place]
    simp [hj]

/-- The edges into a joined entry are edges of the part. -/
theorem Part.wires_sublist {front back : List Link} {l : Link} (hs : p.links = front ++ l :: back) :
    (l.wires (chainEnd none front)).Sublist p.wires := by
  rw [Part.wires, hs, chainWires_append, chainWires]
  exact ((List.sublist_append_left _ _).trans (List.sublist_append_right _ _)).trans
    (List.sublist_append_left _ _)

/-- The edge into a step is an edge of the part. -/
theorem Part.step_sublist {front back : List Node}
    (hs : p.steps ++ [p.result] = front ++ n :: back) :
    ((p.lastLink? front).toList.map fun previous =>
      (⟨previous, n.id, n.inputColumns⟩ : Wire)).Sublist p.wires := by
  rw [Part.wires, hs, stepWires_append, p.stepEnd_chainEnd, stepWires, Option.toList_map]
  exact ((List.sublist_append_left _ _).trans (List.sublist_append_right _ _)).trans
    (List.sublist_append_right _ _)

namespace Chronicle

variable {before after : List Part}

/-- Edges of a part that lead into a node are all edges into it, where it has no more. -/
theorem incoming_eq (h : Chronicle ctx parts) (hp : p ∈ parts) {id : String} {ws : List Wire}
    (sub : ws.Sublist p.wires) (into : ∀ w ∈ ws, w.target = id)
    (all : ((run ctx (parts.map (·.call))).graph.incoming id).length ≤ ws.length) :
    ((run ctx (parts.map (·.call))).graph.incoming id).map Edge.wire = ws := by
  have edges : (((run ctx (parts.map (·.call))).graph.incoming id).map Edge.wire) =
      (parts.flatMap Part.wires).filter (·.target == id) := by
    rw [← h.graph_wires, List.filter_map]
    rfl
  have whole : ws.Sublist (parts.flatMap Part.wires) := by
    refine sub.trans ?_
    simpa using (List.singleton_sublist.mpr hp).flatMap Part.wires
  have found := whole.filter (·.target == id)
  rw [List.filter_eq_self.mpr fun w hw => beq_iff_eq.mpr (into w hw), ← edges] at found
  exact (found.eq_of_length_le (by rwa [List.length_map])).symm

/-- The edges into the join of an entry are those of its link. -/
theorem incoming_join (h : Chronicle ctx parts) {before after : List Part}
    (hs : parts = before ++ p :: after) {front back : List Link} {l : Link}
    (hl : p.links = front ++ l :: back) {j : Node} (hj : l.join = some j) {left : String}
    (behind : chainEnd none front = some left) :
    ((run ctx (parts.map (·.call))).graph.incoming j.id).map Edge.wire =
      [⟨left, j.id, l.entry.join.map (·.columns)⟩,
        ⟨l.input.id, j.id, l.entry.join.map (·.columns)⟩] := by
  have hp : p ∈ parts := by simp [hs]
  have mem : j ∈ p.joins := List.mem_flatMap.mpr ⟨l, by simp [hl], by simp [hj]⟩
  have here : j ∈ (run ctx (parts.map (·.call))).graph.nodes :=
    h.graph_nodes ▸ List.mem_flatMap.mpr ⟨p, hp, p.joins_sublist.subset mem⟩
  have two := (run_linear ctx (parts.map (·.call))).joined j here
    ((h.fits_at hs).joins_kind j mem).1
  have sub := Part.wires_sublist hl
  simp only [Link.wires, behind, hj] at sub
  exact h.incoming_eq hp sub (by simp) (Nat.le_of_eq two)

/-- Nothing leads into a step with no link in front. -/
theorem incoming_eq_nil (h : Chronicle ctx parts) (hs : parts = before ++ p :: after)
    {front back : List Node} (hp : p.steps ++ [p.result] = front ++ n :: back)
    (alone : p.lastLink? front = none) :
    (run ctx (parts.map (·.call))).graph.incoming n.id = [] := by
  have empty := List.append_eq_nil_iff.mp (List.getLast?_eq_none_iff.mp alone)
  obtain rfl : front = [] := List.map_eq_nil_iff.mp empty.2
  have wires : p.wires = stepWires (some n.id) back := by
    rw [Part.wires, List.map_eq_nil_iff.mp empty.1, hp]
    rfl
  have mem : n ∈ p.nodes := p.ends_sublist.subset (by simp [hp])
  have ids := (h.part_nodup (by simp [hs])).sublist (p.ends_sublist.map (·.id))
  rw [hp, List.nil_append, List.map_cons, List.nodup_cons] at ids
  refine List.eq_nil_of_length_eq_zero ?_
  rw [Graph.incoming_length, h.graph_wires, hs,
    count_wires_of_other (·.target) fun q hq w hw => (h.wire_of_other hs mem hq hw).1, wires]
  exact List.count_eq_zero.mpr fun here => ids.1 ((stepWires_targets _ back).subset here)

/-- The part of a call whose entries are joined has the shape of a left-deep chain. -/
theorem leftDeep (h : Chronicle ctx parts) (hs : parts = before ++ p :: after)
    (marked : ∀ e ∈ p.call.body.entries.tail, e.join.isSome = true) :
    p.LeftDeep ctx.dialect (run ctx (parts.map (·.call))).graph := by
  have hp : p ∈ parts := by simp [hs]
  have fits := h.fits_at hs
  have linear := run_linear ctx (parts.map (·.call))
  have here : ∀ n ∈ p.nodes, n ∈ (run ctx (parts.map (·.call))).graph.nodes := fun n hn =>
    h.graph_nodes ▸ List.mem_flatMap.mpr ⟨p, hp, hn⟩
  rw [← fits.entries] at marked
  -- The edges that a node is said to have are edges into it, and `linear` says it has no more.
  constructor
  case joins =>
    refine ⟨fits.joins_eq, ?_⟩
    rw [Part.joins, fits.links.length_joins_of_marked marked, ← fits.entries, List.length_map]
  case first =>
    intro l hl
    rw [Link.last, fits.links.first_alone hl]
    rfl
  case joined =>
    intro front previous l back hl
    have linked := fits.links
    rw [hl] at linked marked
    obtain ⟨m, j, hm, hj, hd, place⟩ := linked.joined marked
    refine ⟨m, j, m.toJoin ctx.dialect, hm, by rw [Part.joins, hl, place], by simp [Link.last, hj],
      hd, rfl, rfl, ?_⟩
    have behind : chainEnd none (front ++ [previous]) = some previous.last := by simp [chainEnd]
    have split := hl.trans (List.append_cons front previous (l :: back))
    simpa only [hm, Option.map_some] using h.incoming_join hs split hj behind
  case steps => exact ⟨fits.steps_eq, fits.steps⟩
  case fed =>
    intro front n back hn
    have mem : n ∈ p.steps ++ [p.result] := by simp [hn]
    have node := p.ends_sublist.subset mem
    cases ahead : p.lastLink? front with
    | none =>
      rw [h.incoming_eq_nil hs hn ahead]
      rfl
    | some previous =>
      have wires := Part.step_sublist hn
      rw [ahead] at wires
      exact h.incoming_eq hp wires (by simp)
        (linear.fed n (here n node) ((fits.mem_ends_iff node).mp mem))

end Chronicle

/-- In every state of a builder, a call whose entries behind the first are joined adds a left-deep
chain of joins with the steps and the result behind it. -/
theorem take_leftDeep (ctx : BuildContext) (calls : List Call) (call : Call)
    (marked : ∀ e ∈ call.body.entries.tail, e.join.isSome = true) :
    ∃ p, p.call = call ∧ Gains ctx (run ctx calls) (take ctx (run ctx calls) call) p ∧
      p.LeftDeep ctx.dialect (take ctx (run ctx calls) call).graph := by
  obtain ⟨parts, rfl, h⟩ := run_chronicle ctx calls
  obtain ⟨p, rfl, gains⟩ := take_gains ctx (run ctx (parts.map (·.call))) call
  have shape := (h.concat gains).leftDeep (by simp : parts ++ [p] = parts ++ p :: []) marked
  rw [List.map_append, List.map_singleton, run_concat] at shape
  exact ⟨p, rfl, gains, shape⟩

/-- `SELECT id FROM users`, taken as the query `t`. -/
def usersAsT : Call :=
  .named "t" ⟨[⟨.of (.column [.bare "id"]), none⟩], [⟨"users", none, none⟩], none, [], [], none⟩

/-- `SELECT a.id FROM t AS a JOIN t AS b ON a.id = b.id WHERE a.id = 1 GROUP BY a.id`. -/
def twice : Selection :=
  let column (qualifier : String) : Expr := .of (.column [.bare qualifier, .bare "id"])
  let on := Expr.of (.binary .equal) [column "a", column "b"]
  ⟨[⟨column "a", none⟩], [⟨"t", some "a", none⟩, ⟨"t", some "b", some ⟨.inner, some on⟩⟩],
    some (.of (.binary .equal) [column "a", .of (.number "1")]), [column "a"], [], none⟩

/-- A query that is joined with itself is a case. -/
theorem take_leftDeep_twice : (∀ e ∈ (Call.main twice).body.entries.tail, e.join.isSome = true) ∧
    ∃ p, p.call = .main twice ∧
      Gains {} (run {} [usersAsT]) (take {} (run {} [usersAsT]) (.main twice)) p ∧
      p.LeftDeep .postgres (take {} (run {} [usersAsT]) (.main twice)).graph :=
  ⟨by decide, take_leftDeep {} [usersAsT] (.main twice) (by decide)⟩

/-- Both edges into its join come from the one result. -/
example : (run {} [usersAsT, .main twice]).graph.edges.map (fun e => (e.source, e.target)) =
    [("table_1", "cte_2"), ("cte_2", "join_3"), ("cte_2", "join_3"), ("join_3", "filter_4"),
      ("filter_4", "agg_5"), ("agg_5", "output_6")] := by
  decide +kernel

end Builder

end QueryFlow
