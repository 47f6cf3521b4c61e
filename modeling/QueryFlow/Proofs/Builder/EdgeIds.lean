import QueryFlow.Proofs.Builder.Moves
import QueryFlow.Proofs.Builder.Sound
import Mathlib.Data.List.Range

/-!
Ids of edges. An id names the ends of its edge, and it ends in a number when there are edges with
the same ends in front, which is how many. The main statement says this of all edges of every run,
and that no two of them have the same id. It rests on the form of node ids: one of them ends in a
number, so no id of an edge can be mistaken for one with other ends and a number behind.
-/

namespace QueryFlow

/-- The edge leads from the first node to the second. -/
def Edge.joins (source target : String) (e : Edge) : Bool :=
  e.source == source && e.target == target

theorem Edge.joins_iff {source target : String} {e : Edge} :
    e.joins source target = true ↔ e.source = source ∧ e.target = target := by
  simp [Edge.joins]

/-- The edges from a node to another, in order. -/
def Graph.between (g : Graph) (source target : String) : List Edge :=
  g.edges.filter (Edge.joins source target)

namespace Builder

/-- What ids of edges between two nodes start with. -/
def edgeStart (source target : String) : String := "e_" ++ source ++ "_" ++ target

/-- The id of the edge between two nodes that has so many others in front of it. -/
def edgeId (source target : String) : Nat → String
  | 0 => edgeStart source target
  | n + 1 => edgeStart source target ++ "_" ++ toString (n + 1)

/-- The text is made of a kind and a number. -/
def IsNodeId (id : String) : Prop := ∃ kind number, id = nodeId kind number

variable {s t s' t' : String} {m n : Nat}

section Reading

theorem idStart_ending {k l : NodeKind}
    (h : (idStart k).toList.reverse.take 2 = (idStart l).toList.reverse.take 2) : k = l := by
  cases k <;> cases l <;> first | rfl | exact absurd h (by decide)

theorem two_le_length_idStart (k : NodeKind) : 2 ≤ (idStart k).toList.reverse.length := by
  cases k <;> decide

/-- The start of a kind is read off the end of a text: its last two letters tell the kind. -/
theorem append_idStart_inj {a b : List Char} {k l : NodeKind}
    (h : a ++ '_' :: (idStart k).toList = b ++ '_' :: (idStart l).toList) : a = b ∧ k = l := by
  have ends := congrArg (fun cs => cs.reverse.take 2) h
  simp only [List.reverse_append, List.reverse_cons, List.append_assoc,
    List.take_append_of_le_length (two_le_length_idStart _)] at ends
  obtain rfl := idStart_ending ends
  exact ⟨List.append_cancel_right h, rfl⟩

theorem edgeStart_toList (s : String) (kind : NodeKind) (number : Nat) :
    (edgeStart s (nodeId kind number)).toList =
      ("e_".toList ++ s.toList ++ '_' :: (idStart kind).toList) ++
        '_' :: Nat.toDigits 10 number := by
  simp [edgeStart, nodeId_toList]

theorem edgeStart_injective (ht : IsNodeId t) (ht' : IsNodeId t')
    (same : edgeStart s t = edgeStart s' t') : s = s' ∧ t = t' := by
  obtain ⟨k, i, rfl⟩ := ht
  obtain ⟨l, j, rfl⟩ := ht'
  have chars := congrArg String.toList same
  rw [edgeStart_toList, edgeStart_toList] at chars
  obtain ⟨front, digits⟩ := append_separator_inj Nat.underscore_not_in_toDigits
    Nat.underscore_not_in_toDigits chars
  obtain ⟨sources, rfl⟩ := append_idStart_inj front
  obtain rfl := toDigits_injective digits
  exact ⟨String.toList_inj.mp (List.append_cancel_left sources), rfl⟩

theorem getLast?_idStart (k : NodeKind) :
    ∃ c, (idStart k).toList.getLast? = some c ∧ c.isDigit = false := by
  cases k <;> exact ⟨_, rfl, rfl⟩

theorem getLast?_toDigits (number : Nat) :
    ∃ c, (Nat.toDigits 10 number).getLast? = some c ∧ c.isDigit = true := by
  have some : (Nat.toDigits 10 number).getLast?.isSome := by
    rw [List.getLast?_isSome]
    exact Nat.toDigits_ne_nil
  obtain ⟨c, last⟩ := Option.isSome_iff_exists.mp some
  exact ⟨c, last, Nat.isDigit_of_mem_toDigits (by decide) (by decide) (List.mem_of_getLast? last)⟩

theorem numbered_toList (start : String) (number : Nat) :
    (start ++ "_" ++ toString number).toList = start.toList ++ '_' :: Nat.toDigits 10 number := by
  simp [toString]

/-- A number behind a start is never the number of a node. -/
theorem edgeStart_ne (ht : IsNodeId t) (ht' : IsNodeId t') (number : Nat) :
    edgeStart s t ≠ edgeStart s' t' ++ "_" ++ toString number := by
  obtain ⟨k, i, rfl⟩ := ht
  obtain ⟨l, j, rfl⟩ := ht'
  intro same
  have chars := congrArg String.toList same
  rw [numbered_toList, edgeStart_toList] at chars
  obtain ⟨front, _⟩ := append_separator_inj Nat.underscore_not_in_toDigits
    Nat.underscore_not_in_toDigits chars
  -- Without the numbers behind, one text ends in a letter and the other in a digit.
  obtain ⟨letter, atLetter, noDigit⟩ := getLast?_idStart k
  obtain ⟨digit, atDigit, isDigit⟩ := getLast?_toDigits j
  have ends := congrArg List.getLast? front
  rw [edgeStart_toList] at ends
  simp [List.getLast?_append, List.getLast?_cons, atLetter, atDigit] at ends
  rw [ends, isDigit] at noDigit
  cases noDigit

theorem edgeId_injective (ht : IsNodeId t) (ht' : IsNodeId t')
    (same : edgeId s t m = edgeId s' t' n) : s = s' ∧ t = t' ∧ m = n := by
  cases m with
  | zero =>
    cases n with
    | zero =>
      obtain ⟨rfl, rfl⟩ := edgeStart_injective ht ht' same
      exact ⟨rfl, rfl, rfl⟩
    | succ n => exact absurd same (edgeStart_ne ht ht' _)
  | succ m =>
    cases n with
    | zero => exact absurd same.symm (edgeStart_ne ht' ht _)
    | succ n =>
      have chars := congrArg String.toList same
      rw [edgeId, edgeId, numbered_toList, numbered_toList] at chars
      obtain ⟨starts, digits⟩ := append_separator_inj Nat.underscore_not_in_toDigits
        Nat.underscore_not_in_toDigits chars
      obtain ⟨rfl, rfl⟩ := edgeStart_injective ht ht' (String.toList_inj.mp starts)
      exact ⟨rfl, rfl, toDigits_injective digits⟩

end Reading

section Numbering

variable {edges : List Edge} {taken : List String} {start : String}

/-- The search for a free number ends at the first one that is free, if it gets so far. -/
theorem search_eq {fuel suffix : Nat} (le : suffix ≤ n) (enough : n - suffix ≤ fuel)
    (before : ∀ j, suffix ≤ j → j < n → start ++ "_" ++ toString j ∈ taken)
    (free : start ++ "_" ++ toString n ∉ taken) :
    freshId.search taken start fuel suffix = start ++ "_" ++ toString n := by
  induction fuel generalizing suffix with
  | zero =>
    obtain rfl : suffix = n := by omega
    rfl
  | succ fuel ih =>
    unfold freshId.search
    rcases le.eq_or_lt with rfl | lt
    · exact if_neg fun contains => free (List.contains_iff_mem.mp contains)
    · have here := before suffix (Nat.le_refl suffix) lt
      rw [if_pos (List.contains_iff_mem.mpr here)]
      exact ih lt (by omega) fun j hj => before j (by omega)

/-- The id is the first one that is not taken. -/
theorem freshId_eq (enough : n ≤ taken.length) (before : ∀ j < n, edgeId s t j ∈ taken)
    (free : edgeId s t n ∉ taken) : freshId taken (edgeStart s t) = edgeId s t n := by
  unfold freshId
  cases n with
  | zero =>
    exact if_neg fun contains => free (List.contains_iff_mem.mp contains)
  | succ n =>
    have first : edgeStart s t ∈ taken := before 0 (Nat.succ_pos n)
    rw [if_pos (List.contains_iff_mem.mpr first)]
    refine search_eq (Nat.succ_pos n) (by omega) (fun j hj lt => ?_) free
    obtain ⟨i, rfl⟩ := Nat.exists_eq_succ_of_ne_zero (by omega : j ≠ 0)
    exact before (i + 1) lt

/-- Every edge is numbered by the edges with its ends that stand in front of it. -/
structure Numbered (edges : List Edge) : Prop where
  distinct : (edges.map (·.id)).Nodup
  inOrder : ∀ s t, (edges.filter (Edge.joins s t)).map (·.id) =
    (List.range (edges.countP (Edge.joins s t))).map (edgeId s t)

theorem start_numbered : Numbered [] := ⟨List.nodup_nil, fun _ _ => rfl⟩

/-- The ids for two nodes that are taken are those with small numbers. -/
theorem Numbered.mem_iff (h : Numbered edges) (targets : ∀ e ∈ edges, IsNodeId e.target)
    (ht : IsNodeId t) : edgeId s t n ∈ edges.map (·.id) ↔ n < edges.countP (Edge.joins s t) := by
  constructor
  · intro mem
    obtain ⟨e, he, same⟩ := List.mem_map.mp mem
    have own : e.id ∈ (edges.filter (Edge.joins e.source e.target)).map (·.id) :=
      List.mem_map_of_mem (List.mem_filter.mpr ⟨he, Edge.joins_iff.mpr ⟨rfl, rfl⟩⟩)
    rw [h.inOrder] at own
    obtain ⟨i, lt, named⟩ := List.mem_map.mp own
    obtain ⟨rfl, rfl, rfl⟩ := edgeId_injective (targets e he) ht (named.trans same)
    exact List.mem_range.mp lt
  · intro lt
    have listed : edgeId s t n ∈ (edges.filter (Edge.joins s t)).map (·.id) := by
      rw [h.inOrder]
      exact List.mem_map_of_mem (List.mem_range.mpr lt)
    exact List.map_subset _ (List.filter_subset_self edges) listed

/-- One more edge gets the number that comes next for its ends. -/
theorem Numbered.concat (h : Numbered edges) (targets : ∀ e ∈ edges, IsNodeId e.target) {e : Edge}
    (ht : IsNodeId e.target)
    (id : e.id = freshId (edges.map (·.id)) (edgeStart e.source e.target)) :
    Numbered (edges ++ [e]) := by
  have next : e.id = edgeId e.source e.target (edges.countP (Edge.joins e.source e.target)) := by
    refine id.trans (freshId_eq ?_ (fun j lt => (h.mem_iff targets ht).mpr lt) fun mem => ?_)
    · simpa using List.countP_le_length
    · exact absurd ((h.mem_iff targets ht).mp mem) (Nat.lt_irrefl _)
  constructor
  · have fresh : e.id ∉ edges.map (·.id) := by
      rw [next, h.mem_iff targets ht]
      exact Nat.lt_irrefl _
    rw [List.map_append, List.map_singleton, ← List.concat_eq_append]
    exact h.distinct.concat fresh
  · intro s t
    rw [List.filter_append, List.map_append, h.inOrder, List.countP_append]
    by_cases joins : e.joins s t = true
    · obtain ⟨rfl, rfl⟩ := Edge.joins_iff.mp joins
      simp [joins, next, List.range_succ]
    · simp [joins]

end Numbering

variable {ctx : BuildContext} {b c : Builder}

/-- A move adds no edge, or one with an id that is free. -/
theorem Move.numbered (move : Move b c) (ends : ∀ e ∈ c.edges, IsNodeId e.target)
    (h : Numbered b.edges) : Numbered c.edges := by
  cases move with
  | same same => exact same.edges ▸ h
  | node parent data => exact h
  | bind name id => exact h
  | edge source target columns =>
    have before : ∀ e ∈ b.edges, IsNodeId e.target :=
      fun e he => ends e (List.mem_append_left _ he)
    exact h.concat before (ends _ (List.mem_append_right _ (List.mem_singleton_self _))) rfl

theorem Move.edges_subset (move : Move b c) : b.edges ⊆ c.edges := by
  cases move with
  | same same => exact same.edges ▸ List.Subset.refl _
  | node parent data => exact List.Subset.refl _
  | bind name id => exact List.Subset.refl _
  | edge source target columns => exact List.subset_append_left _ _

theorem Moves.numbered (moves : Moves b c) (ends : ∀ e ∈ c.edges, IsNodeId e.target)
    (h : Numbered b.edges) : Numbered c.edges := by
  induction moves with
  | refl => exact h
  | tail _ move ih => exact move.numbered ends (ih fun e he => ends e (move.edges_subset he))

theorem Sound.target_isNodeId (h : Sound b) {e : Edge} (he : e ∈ b.edges) :
    IsNodeId e.target := by
  obtain ⟨_, j, _, _, n, found, same, _⟩ := h.forward e he
  exact ⟨n.kind, j, same ▸ h.numbered j n found⟩

/-- No two edges have one id, and the edges from a node to another have, in their order, the ids
that name both and are numbered from the second edge on. -/
theorem run_edges_numbered (ctx : BuildContext) (calls : List Call) :
    ((run ctx calls).graph.edges.map (·.id)).Nodup ∧
      ∀ source target, ((run ctx calls).graph.between source target).map (·.id) =
        (List.range ((run ctx calls).graph.between source target).length).map
          (edgeId source target) := by
  have ends : ∀ e ∈ (run ctx calls).edges, IsNodeId e.target :=
    fun e he => (run_sound ctx calls).target_isNodeId he
  have h := (run_moves ctx calls).numbered ends start_numbered
  refine ⟨h.distinct, fun source target => ?_⟩
  rw [Graph.between, ← List.countP_eq_length_filter]
  exact h.inOrder source target

end Builder

end QueryFlow
