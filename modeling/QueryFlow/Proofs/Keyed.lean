import QueryFlow.Keyed
import Mathlib.Data.List.Nodup

/-!
What is under the keys after assignments. All of it was assigned at some time. Where the keys of all
assignments are different, each key has the one value that was given to it, and it does not matter
in which order the keys were given theirs.
-/

namespace QueryFlow.Keyed

variable {α β : Type}

theorem mem_assign {key : String} {value : α} {xs : List (String × α)} {x : String × α}
    (h : x ∈ assign key value xs) : x = (key, value) ∨ x ∈ xs := by
  induction xs with
  | nil => exact Or.inl (List.mem_singleton.mp h)
  | cons y rest ih =>
    obtain ⟨k, v⟩ := y
    rw [assign] at h
    split at h
    case isTrue same =>
      rw [beq_iff_eq] at same
      subst same
      exact (List.mem_cons.mp h).imp_right (List.mem_cons_of_mem _)
    case isFalse =>
      rcases List.mem_cons.mp h with rfl | h
      · exact Or.inr List.mem_cons_self
      · exact (ih h).imp_right (List.mem_cons_of_mem _)

theorem mem_assignAll {pairs start : List (String × α)} {x : String × α}
    (h : x ∈ assignAll pairs start) : x ∈ pairs ∨ x ∈ start := by
  induction pairs generalizing start with
  | nil => exact Or.inr h
  | cons y rest ih =>
    rcases ih h with later | h
    · exact Or.inl (List.mem_cons_of_mem _ later)
    · rcases mem_assign h with rfl | h
      · exact Or.inl List.mem_cons_self
      · exact Or.inr h

theorem lookup_eq_some_iff_mem {key : String} {value : α} {xs : List (String × α)}
    (distinct : (xs.map Prod.fst).Nodup) : xs.lookup key = some value ↔ (key, value) ∈ xs := by
  induction xs with
  | nil => simp
  | cons x rest ih =>
    obtain ⟨k, v⟩ := x
    rw [List.map_cons, List.nodup_cons] at distinct
    rw [List.lookup_cons, List.mem_cons, Prod.mk.injEq]
    by_cases same : key = k
    · subst same
      have absent : (key, value) ∉ rest := fun mem =>
        distinct.1 (List.mem_map.mpr ⟨(key, value), mem, rfl⟩)
      simp [absent, eq_comm]
    · have other : (key == k) = false := by simp [same]
      simp [other, same, ih distinct.2]

/-- The order of assignments does not matter for what is known after them. -/
theorem lookup_assignAll_perm {xs ys : List (String × α)} (distinct : (xs.map Prod.fst).Nodup)
    (perm : xs.Perm ys) (key : String) :
    (assignAll xs []).lookup key = (assignAll ys []).lookup key := by
  have distinct' : (ys.map Prod.fst).Nodup := (perm.map Prod.fst).nodup distinct
  rw [assignAll_of_nodup [] distinct, assignAll_of_nodup [] distinct']
  refine Option.ext fun value => ?_
  simp only [List.nil_append]
  rw [lookup_eq_some_iff_mem distinct, lookup_eq_some_iff_mem distinct', perm.mem_iff]

section Items

variable {key : β → String} {value? : β → Option α} {xs : List β}

theorem keys_sublist (key : β → String) (value? : β → Option α) (xs : List β) :
    ((xs.filterMap fun x => (value? x).map (key x, ·)).map Prod.fst).Sublist (xs.map key) := by
  induction xs with
  | nil => exact .slnil
  | cons x rest ih =>
    cases found : value? x with
    | none => simpa [found] using ih.cons _
    | some v => simpa [found] using ih.cons_cons (key x)

/-- An item that has a value has it under its key. -/
theorem lookup_assignAll_filterMap (distinct : (xs.map key).Nodup) {x : β} (hx : x ∈ xs) :
    (assignAll (xs.filterMap fun x => (value? x).map (key x, ·)) []).lookup (key x) =
      value? x := by
  have keys := distinct.sublist (keys_sublist key value? xs)
  rw [assignAll_of_nodup [] keys, List.nil_append]
  refine Option.ext fun value => ?_
  rw [lookup_eq_some_iff_mem keys, List.mem_filterMap]
  simp only [Option.map_eq_some_iff, Prod.mk.injEq]
  constructor
  · rintro ⟨y, hy, v, found, same, rfl⟩
    rwa [← List.inj_on_of_nodup_map distinct hy hx same]
  · intro found
    exact ⟨x, hx, value, found, rfl, rfl⟩

theorem lookup_assignAll_map {value : β → α} (distinct : (xs.map key).Nodup) {x : β}
    (hx : x ∈ xs) :
    (assignAll (xs.map fun x => (key x, value x)) []).lookup (key x) = some (value x) := by
  have found : (assignAll (xs.filterMap fun x => (some (value x)).map (key x, ·)) []).lookup
      (key x) = some (value x) := lookup_assignAll_filterMap distinct hx
  simpa [List.filterMap_eq_map'] using found

end Items

end QueryFlow.Keyed
