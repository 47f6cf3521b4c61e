import QueryFlow.Graph.Builder

/-!
What the usage of a SELECT has under a key. References are noted one after the other, and a star
replaces what is under its key, so a column is there when a reference to it has no star behind it. A
key of its own stands for references without a table. The statements hold for every key, and for
every order of the references.
-/

namespace QueryFlow

open Sql

/-- An expression refers to what its top node refers to. -/
theorem Sql.Expr.mem_references {e : Expr} {r : Reference}
    (top : Reference.ofForm? e.form = some r) : r ∈ e.references := by
  obtain ⟨form, notes, operands⟩ := e
  rw [references, subterms]
  exact List.mem_filterMap.mpr ⟨_, List.mem_cons_self, top⟩

/-- All references of a SELECT, in the order in which they are noted. -/
def Selection.references (s : Selection) : List Reference :=
  (Usage.expressionsOf s).flatMap Expr.references

namespace Usage

variable {u : Usage} {refs rest : List Reference} {r : Reference} {key c : String}

/-- A reference to the column is noted under the key, and no star behind it replaces it. -/
def Stays (refs : List Reference) (key c : String) : Prop :=
  ∃ before r after, refs = before ++ r :: after ∧ r.table.getD unqualified = key ∧ r.column = c ∧
    ⟨some key, "*"⟩ ∉ after

theorem stays_cons : Stays (r :: rest) key c ↔
    (r.table.getD unqualified = key ∧ r.column = c ∧ ⟨some key, "*"⟩ ∉ rest) ∨
      Stays rest key c := by
  constructor
  · rintro ⟨before, x, after, split, stays⟩
    cases before with
    | nil =>
      obtain ⟨rfl, rfl⟩ := List.cons.inj split
      exact .inl stays
    | cons y before =>
      obtain ⟨rfl, rfl⟩ := List.cons.inj split
      exact .inr ⟨before, x, after, rfl, stays⟩
  · rintro (stays | ⟨before, x, after, rfl, stays⟩)
    · exact ⟨[], r, rest, rfl, stays⟩
    · exact ⟨r :: before, x, after, rfl, stays⟩

theorem Stays.of_mem (mem : r ∈ refs) (same : r.table.getD unqualified = key)
    (free : ⟨some key, "*"⟩ ∉ refs) : Stays refs key r.column := by
  obtain ⟨before, after, rfl⟩ := List.append_of_mem mem
  exact ⟨before, r, after, rfl, same, rfl, fun star => free (by simp [star])⟩

/-- The last star stays. -/
theorem Stays.star (mem : ⟨some key, "*"⟩ ∈ refs) : Stays refs key "*" := by
  induction refs with
  | nil => cases mem
  | cons r rest ih =>
    rw [stays_cons]
    by_cases later : ⟨some key, "*"⟩ ∈ rest
    · exact .inr (ih later)
    · obtain rfl := (List.mem_cons.mp mem).resolve_right later
      exact .inl ⟨rfl, rfl, later⟩

/-- A reference that stays was made under its key, or under none if the key is the reserved one. -/
theorem Stays.mem (h : Stays refs key c) :
    ⟨some key, c⟩ ∈ refs ∨ key = unqualified ∧ ⟨none, c⟩ ∈ refs := by
  obtain ⟨before, ⟨table, column⟩, after, rfl, rfl, rfl, _⟩ := h
  cases table with
  | none => exact .inr ⟨rfl, by simp⟩
  | some t => exact .inl (by simp)

theorem under_assign (u : Usage) (key other : String) (columns : List String) :
    under { u with columns := Keyed.assign key columns u.columns } other =
      if other = key then columns else u.under other := by
  rw [under, Keyed.lookup_assign]
  split <;> rfl

theorem mem_under_note (u : Usage) (key name other : String) :
    c ∈ (u.note key name).under other ↔ c ∈ u.under other ∨ other = key ∧ name = c := by
  rw [note, under_assign]
  by_cases same : other = key
  · subst same
    by_cases known : name ∈ u.under other
    · simp only [List.contains_iff_mem, known, if_true, true_and, iff_self_or]
      rintro rfl
      exact known
    · simp [known, eq_comm]
  · simp [same]

theorem showAll_collect (u : Usage) (refs : List Reference) :
    (u.collect refs).showAll = true ↔ u.showAll = true ∨ ⟨none, "*"⟩ ∈ refs := by
  induction refs generalizing u with
  | nil => simp [collect]
  | cons r rest ih =>
    obtain ⟨table, column⟩ := r
    rw [collect]
    by_cases star : column = "*"
    · cases table <;> simp [star, ih]
    · simp [star, Ne.symm star, ih, note]

/-- What is under a key once all is noted, where no star stands without a table. -/
theorem mem_under_collect (u : Usage) (free : ⟨none, "*"⟩ ∉ refs) :
    c ∈ (u.collect refs).under key ↔
      c ∈ u.under key ∧ ⟨some key, "*"⟩ ∉ refs ∨ Stays refs key c := by
  induction refs generalizing u with
  | nil => simp [collect, Stays]
  | cons r rest ih =>
    obtain ⟨table, column⟩ := r
    have free' : ⟨none, "*"⟩ ∉ rest := fun star => free (List.mem_cons_of_mem _ star)
    rw [collect, stays_cons]
    by_cases star : column = "*"
    · subst star
      cases table with
      | none => exact absurd List.mem_cons_self free
      | some t =>
        simp only [beq_self_eq_true, if_true, ih _ free', under_assign, Option.getD_some]
        -- A star drops what was noted in front of it, but only under its own key.
        by_cases same : key = t
        · subst same
          simp [eq_comm]
        · simp [same, Ne.symm same]
    · have other : (⟨some key, "*"⟩ : Reference) ≠ ⟨table, column⟩ :=
        fun same => star (Reference.mk.inj same).2.symm
      simp only [beq_iff_eq, star, if_false, ih _ free', mem_under_note, List.mem_cons, other,
        false_or, eq_comm (a := key)]
      rw [or_and_right, or_assoc, and_assoc]

/-- What an item of the select list refers to is among the references of the SELECT. -/
theorem mem_references_of_item {s : Selection} {item : SelectItem} (hi : item ∈ s.items)
    (refers : r ∈ item.expr.references) : r ∈ s.references :=
  List.mem_flatMap.mpr ⟨item.expr, by simp [expressionsOf, List.mem_map_of_mem hi], refers⟩

theorem mem_references_of_isStar {s : Selection} (star : s.items.any isStar = true) :
    ⟨none, "*"⟩ ∈ s.references := by
  obtain ⟨item, hi, is⟩ := List.any_eq_true.mp star
  refine mem_references_of_item hi (Expr.mem_references ?_)
  unfold isStar at is
  split at is
  case h_1 form =>
    rw [form]
    rfl
  case h_2 => cases is

theorem showAll_ofSelection (s : Selection) :
    (ofSelection s).showAll = true ↔ ⟨none, "*"⟩ ∈ s.references := by
  unfold ofSelection
  split
  case isTrue star => exact iff_of_true rfl (mem_references_of_isStar star)
  case isFalse => simp [showAll_collect, Selection.references]

/-- What is noted under a key for a SELECT that asks for no star without a qualifier. -/
theorem mem_under_ofSelection {s : Selection} (free : ⟨none, "*"⟩ ∉ s.references) :
    c ∈ (ofSelection s).under key ↔ Stays s.references key c := by
  have collected : ofSelection s = collect {} s.references := by
    rw [ofSelection, if_neg fun star => free (mem_references_of_isStar star), Selection.references]
  rw [collected, mem_under_collect _ free]
  simp [under]

end Usage

end QueryFlow
