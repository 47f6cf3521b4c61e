import QueryFlow.Graph.Integrity

/-!
The rules of a flow graph, said of the graph as a whole and without the scan that looks for
violations. The main statement is that the scan finds nothing exactly on the graphs that keep
the rules. How often a violation is reported is not said here.
-/

namespace QueryFlow.Graph

variable {g : Graph}

/-- The rules that every flow graph should keep. -/
structure WellFormed (g : Graph) : Prop where
  distinct : g.ids.Nodup
  grouped : ∀ n ∈ g.nodes, ∀ p, n.parent = some p → p ∈ g.groupIds
  ends : ∀ e ∈ g.edges, ∀ id, id = e.source ∨ id = e.target → id ∈ g.ids ∧ id ∉ g.groupIds

theorem repeated_eq_nil_iff (seen ids : List String) :
    repeated seen ids = [] ↔ ids.Nodup ∧ ∀ id ∈ ids, id ∉ seen := by
  induction ids generalizing seen with
  | nil => simp [repeated]
  | cons id rest ih =>
    by_cases h : id ∈ seen
    · simp [repeated, h]
    · simp only [repeated, List.contains_iff_mem, h, if_false, ih, List.nodup_cons,
        List.mem_cons, not_or]
      constructor
      · rintro ⟨nodup, fresh⟩
        refine ⟨⟨fun hid => (fresh id hid).1 rfl, nodup⟩, ?_⟩
        rintro x (rfl | hx)
        · exact h
        · exact (fresh x hx).2
      · rintro ⟨⟨new, nodup⟩, fresh⟩
        exact ⟨nodup, fun x hx => ⟨fun he => new (he ▸ hx), fresh x (Or.inr hx)⟩⟩

theorem parentViolation?_eq_none_iff (n : Node) :
    g.parentViolation? n = none ↔ ∀ p, n.parent = some p → p ∈ g.groupIds := by
  unfold parentViolation?
  cases n.parent with
  | none => simp
  | some p => simp

theorem endViolation?_eq_none_iff (edge id : String) :
    g.endViolation? edge id = none ↔ id ∈ g.ids ∧ id ∉ g.groupIds := by
  unfold endViolation?
  by_cases h : id ∈ g.ids <;> by_cases hg : id ∈ g.groupIds <;> simp [h, hg]

/-- The scan finds nothing exactly when the rules are kept. -/
theorem violations_eq_nil_iff : g.violations = [] ↔ g.WellFormed := by
  have hends (e : Edge) :
      (g.endViolation? e.id e.source).toList ++ (g.endViolation? e.id e.target).toList = [] ↔
        ∀ id, id = e.source ∨ id = e.target → id ∈ g.ids ∧ id ∉ g.groupIds := by
    simp only [List.append_eq_nil_iff, Option.toList_eq_nil_iff, endViolation?_eq_none_iff]
    constructor
    · rintro ⟨hs, ht⟩ id (rfl | rfl)
      · exact hs
      · exact ht
    · intro h
      exact ⟨h _ (Or.inl rfl), h _ (Or.inr rfl)⟩
  simp only [violations, List.append_eq_nil_iff, List.map_eq_nil_iff, repeated_eq_nil_iff,
    List.filterMap_eq_nil_iff, parentViolation?_eq_none_iff, List.flatMap_eq_nil_iff, hends]
  constructor
  · rintro ⟨⟨⟨distinct, -⟩, grouped⟩, ends⟩
    exact ⟨distinct, grouped, ends⟩
  · intro h
    exact ⟨⟨⟨h.distinct, by simp⟩, h.grouped⟩, h.ends⟩

instance : Decidable g.WellFormed := decidable_of_iff _ violations_eq_nil_iff

end QueryFlow.Graph
