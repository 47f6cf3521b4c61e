import QueryFlow.Proofs.Graph.Integrity
import Mathlib.Data.List.Dedup
import Mathlib.Data.List.Perm.Basic

/-!
What the scan for violations reports, and how often. The main statement gives the whole report of an
arbitrary graph in terms of its ids, parents and ends of edges: an id is reported once for each
repetition, a node once for a parent that is no group, and an end once when it is no node or a
group. It does not matter where in the list of nodes a group stands.
-/

namespace QueryFlow

namespace Violation

theorem message_duplicateId (id : String) :
    (duplicateId id).message = "duplicate node id: " ++ id := rfl

theorem message_unknownGroup (node group : String) :
    (unknownGroup node group).message =
      "node " ++ node ++ " references unknown cte-group " ++ group := rfl

theorem message_missingEnd (edge node : String) :
    (missingEnd edge node).message = "edge " ++ edge ++ " references missing node " ++ node := rfl

theorem message_endAtGroup (edge group : String) :
    (endAtGroup edge group).message =
      "edge " ++ edge ++ " is incident on cte-group " ++ group := rfl

def begins (words text : String) : Bool := words.toList.isPrefixOf text.toList

theorem begins_self (words rest : String) : begins words (words ++ rest) = true := by
  rw [begins, List.isPrefixOf_iff_prefix, String.toList_append]
  exact List.prefix_append _ _

theorem begins_of_other {words front : String} (rest : String)
    (apart : ¬ words.toList <+: front.toList ∧ ¬ front.toList <+: words.toList) :
    begins words (front ++ rest) = false := by
  rw [begins, ← Bool.not_eq_true, List.isPrefixOf_iff_prefix, String.toList_append]
  intro h
  exact (List.prefix_or_prefix_of_prefix h (List.prefix_append _ _)).elim apart.1 apart.2

/-- Only a repeated id is reported in these words, whatever the other ids are. -/
theorem begins_message (v : Violation) :
    begins "duplicate node id: " v.message = true ↔ ∃ id, v = .duplicateId id := by
  cases v with
  | duplicateId id =>
    rw [message_duplicateId, begins_self]
    simp
  | unknownGroup n g =>
    rw [message_unknownGroup, String.append_assoc, String.append_assoc,
      begins_of_other _ (by decide)]
    simp
  | missingEnd e n =>
    rw [message_missingEnd, String.append_assoc, String.append_assoc, begins_of_other _ (by decide)]
    simp
  | endAtGroup e g =>
    rw [message_endAtGroup, String.append_assoc, String.append_assoc, begins_of_other _ (by decide)]
    simp

end Violation

namespace Graph

variable {g : Graph}

/-- The wordings of all violations, in order. -/
def report (g : Graph) : List String := g.violations.map Violation.message

/-- The node has a parent, and no group has the id of it. -/
def Strays (g : Graph) (n : Node) : Prop :=
  ∃ p, n.parent = some p ∧ ∀ m ∈ g.nodes, m.kind = .group → m.id ≠ p

/-- No node has the id, or a group has it. -/
def Refuses (g : Graph) (id : String) : Prop :=
  (∀ m ∈ g.nodes, m.id ≠ id) ∨ ∃ m ∈ g.nodes, m.kind = .group ∧ m.id = id

/-- The ends of all edges, each with the id of its edge. -/
def ends (g : Graph) : List (String × String) :=
  g.edges.flatMap fun e => [(e.id, e.source), (e.id, e.target)]

theorem mem_ids {id : String} : id ∈ g.ids ↔ ∃ m ∈ g.nodes, m.id = id := by
  simp [ids]

theorem mem_groupIds {id : String} :
    id ∈ g.groupIds ↔ ∃ m ∈ g.nodes, m.kind = .group ∧ m.id = id := by
  simp [groupIds, Node.isGroup, and_assoc]

theorem strays_iff {n : Node} : g.Strays n ↔ ∃ p ∈ n.parent, p ∉ g.groupIds := by
  simp only [Strays, mem_groupIds, not_exists, not_and, Option.mem_def]

theorem refuses_iff {id : String} : g.Refuses id ↔ id ∉ g.ids ∨ id ∈ g.groupIds := by
  simp only [Refuses, mem_ids, mem_groupIds, not_exists, not_and]

instance : DecidablePred g.Strays := fun _ => decidable_of_iff _ strays_iff.symm

instance : DecidablePred g.Refuses := fun _ => decidable_of_iff _ refuses_iff.symm

/-- Behind the ids that were seen, each id is repeated as often as it stands there, once less if it
was not seen before. -/
theorem count_repeated (seen ids : List String) (id : String) :
    (repeated seen ids).count id = if id ∈ seen then ids.count id else ids.count id - 1 := by
  induction ids generalizing seen with
  | nil => simp [repeated]
  | cons first rest ih =>
    rw [repeated, List.count_cons]
    by_cases known : first ∈ seen
    · by_cases same : first = id
      · subst same
        simp [known, ih]
      · simp [known, ih, same]
    · by_cases same : first = id
      · subst same
        simp [known, ih]
      · have apart : id ≠ first := Ne.symm same
        simp [known, ih, same, apart]

/-- All ids are the distinct ones and the repetitions. -/
theorem perm_dedup_repeated (ids : List String) : (ids.dedup ++ repeated [] ids).Perm ids := by
  refine List.perm_iff_count.mpr fun id => ?_
  have again := count_repeated [] ids id
  rw [if_neg List.not_mem_nil] at again
  rw [List.count_append, List.count_dedup, again]
  by_cases mem : id ∈ ids
  · have here := List.count_pos_iff.mpr mem
    simp only [mem, if_true]
    omega
  · have none := List.count_eq_zero.mpr mem
    simp only [mem, if_false]
    omega

theorem length_repeated (ids : List String) :
    (repeated [] ids).length = ids.length - ids.dedup.length := by
  have whole := (perm_dedup_repeated ids).length_eq
  rw [List.length_append] at whole
  omega

/-- A node is reported once for a parent that is no group. -/
theorem parents_reported (g : Graph) :
    (g.nodes.filterMap g.parentViolation?).map Violation.message =
      (g.nodes.filter (g.Strays ·)).map fun n =>
        "node " ++ n.id ++ " references unknown cte-group " ++ n.parent.getD "" := by
  rw [List.map_filterMap, ← List.filterMap_eq_map', List.filterMap_filter]
  refine List.filterMap_congr fun n _ => ?_
  unfold parentViolation?
  cases hp : n.parent with
  | none => simp [strays_iff, hp]
  | some p =>
    by_cases known : p ∈ g.groupIds
    · simp [strays_iff, hp, known]
    · simp [strays_iff, hp, known, Violation.message_unknownGroup]

/-- An end is reported once when it is no node or a group. A group is told from other nodes. -/
theorem ends_reported (g : Graph) :
    (g.edges.flatMap fun e => (g.endViolation? e.id e.source).toList ++
        (g.endViolation? e.id e.target).toList).map Violation.message =
      (g.ends.filter (g.Refuses ·.2)).map fun x =>
        "edge " ++ x.1 ++ (if ∃ m ∈ g.nodes, m.id = x.2 then " is incident on cte-group "
          else " references missing node ") ++ x.2 := by
  have one (e : Edge) : (g.endViolation? e.id e.source).toList ++
      (g.endViolation? e.id e.target).toList =
        [(e.id, e.source), (e.id, e.target)].filterMap fun x => g.endViolation? x.1 x.2 := by
    cases hs : g.endViolation? e.id e.source <;> cases ht : g.endViolation? e.id e.target <;>
      simp [hs, ht]
  simp only [one, ← List.filterMap_flatMap]
  rw [← ends, List.map_filterMap, ← List.filterMap_eq_map', List.filterMap_filter]
  refine List.filterMap_congr fun x _ => ?_
  simp only [endViolation?, ← mem_ids]
  by_cases there : x.2 ∈ g.ids
  · by_cases frame : x.2 ∈ g.groupIds
    · simp [refuses_iff, there, frame, Violation.message_endAtGroup]
    · simp [refuses_iff, there, frame]
  · simp [refuses_iff, there, Violation.message_missingEnd]

/-- The texts about repeated ids are known by their first words. -/
theorem repeated_reported (g : Graph) :
    (g.violations.filter fun v => Violation.begins "duplicate node id: " v.message) =
      (repeated [] g.ids).map .duplicateId := by
  have repeats : ∀ v ∈ (repeated [] g.ids).map Violation.duplicateId,
      Violation.begins "duplicate node id: " v.message = true := by
    intro v hv
    obtain ⟨id, _, rfl⟩ := List.mem_map.mp hv
    exact (Violation.begins_message _).mpr ⟨id, rfl⟩
  have parents : ∀ v ∈ g.nodes.filterMap g.parentViolation?,
      ¬ Violation.begins "duplicate node id: " v.message = true := by
    intro v hv
    obtain ⟨n, _, found⟩ := List.mem_filterMap.mp hv
    rw [Violation.begins_message]
    rintro ⟨id, rfl⟩
    unfold parentViolation? at found
    split at found <;> simp at found
  have ends : ∀ v ∈ g.edges.flatMap fun e => (g.endViolation? e.id e.source).toList ++
        (g.endViolation? e.id e.target).toList,
      ¬ Violation.begins "duplicate node id: " v.message = true := by
    intro v hv
    have found : ∃ edge id, g.endViolation? edge id = some v := by
      obtain ⟨e, _, he⟩ := List.mem_flatMap.mp hv
      rcases List.mem_append.mp he with first | second
      · exact ⟨_, _, Option.mem_toList.mp first⟩
      · exact ⟨_, _, Option.mem_toList.mp second⟩
    obtain ⟨edge, target, found⟩ := found
    rw [Violation.begins_message]
    rintro ⟨id, rfl⟩
    unfold endViolation? at found
    split at found
    · simp at found
    · split at found <;> simp at found
  rw [violations, List.filter_append, List.filter_append, List.filter_eq_self.mpr repeats,
    List.filter_eq_nil_iff.mpr parents, List.filter_eq_nil_iff.mpr ends, List.append_nil,
    List.append_nil]

/-- The whole report of any graph. First come the repetitions of ids, as many as there are nodes
beyond the distinct ids, and these are the only texts that begin like this. Then comes one text for
each node whose parent is no group, and then one for each end that is no node or a group, in the
order of the nodes and of the edges. Nothing is reported exactly when all rules are kept. -/
theorem report_exact (g : Graph) :
    ∃ repeats : List String,
      g.report = repeats.map ("duplicate node id: " ++ ·) ++
        (g.nodes.filter (g.Strays ·)).map (fun n =>
          "node " ++ n.id ++ " references unknown cte-group " ++ n.parent.getD "") ++
        (g.ends.filter (g.Refuses ·.2)).map (fun x =>
          "edge " ++ x.1 ++ (if ∃ m ∈ g.nodes, m.id = x.2 then " is incident on cte-group "
            else " references missing node ") ++ x.2) ∧
      (∀ id, repeats.count id = g.ids.count id - 1) ∧
      (g.report.filter (Violation.begins "duplicate node id: ")).length =
        g.nodes.length - g.ids.dedup.length ∧
      (g.report = [] ↔ g.WellFormed) := by
  refine ⟨repeated [] g.ids, ?_, fun id => ?_, ?_, ?_⟩
  · rw [report, violations, List.map_append, List.map_append, parents_reported, ends_reported,
      List.map_map]
    rfl
  · rw [count_repeated, if_neg List.not_mem_nil]
  · have only := g.repeated_reported
    rw [report, List.filter_map, List.length_map, Function.comp_def, only, List.length_map,
      length_repeated, ids, List.length_map]
  · rw [report, List.map_eq_nil_iff, violations_eq_nil_iff]

end Graph

end QueryFlow
