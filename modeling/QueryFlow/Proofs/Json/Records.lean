import QueryFlow.Json.Form
import Mathlib.Data.List.Basic

/-!
Records that are written and read again. The name of a field has two spellings, and a field without
a value is left out or null, so there are four styles to write one record. The main statements say
that in each of them a field reads as what was written, if no two fields share a spelling. They are
about JSON values and not about their texts.
-/

namespace QueryFlow.Form

variable {α : Type}

/-- Fields in their order, some of them without a value. -/
abbrev Record := List (Key × Option Json)

/-- How a record is written: in which spelling, and whether a field without a value is null. -/
structure Style where
  snake : Bool
  nulls : Bool

namespace Style

/-- The first spelling, without nulls. -/
def wire : Style := ⟨false, false⟩

/-- The name of a field. -/
def spelled (s : Style) (k : Key) : String := if s.snake then k.snake else k.camel

def value? (s : Style) : Option Json → Option Json
  | some j => some j
  | none => if s.nulls then some .null else none

def fields (s : Style) (r : Record) : List (String × Json) :=
  r.filterMap fun x => (s.value? x.2).map fun j => (s.spelled x.1, j)

def write (s : Style) (r : Record) : Json := .object (s.fields r)

end Style

/-- What is sent out is the first spelling without nulls. -/
theorem wire_write (r : Record) :
    Style.wire.write r = Json.ofPresent (r.map fun x => (x.1.camel, x.2)) := by
  unfold Style.write Style.fields Json.ofPresent
  rw [List.filterMap_map]
  refine congrArg Json.object (List.filterMap_congr fun x _ => ?_)
  cases hx : x.2 <;> simp [Style.value?, Style.wire, Style.spelled, hx]

theorem fieldsOf_write (s : Style) (r : Record) (problem : ProblemKind)
    (f : List (String × Json) → Checked α) :
    (fieldsOf problem (s.write r) >>= f) = f (s.fields r) := rfl

/-- Two names that share no spelling. -/
def Apart (k k' : Key) : Prop :=
  k.camel ≠ k'.camel ∧ k.camel ≠ k'.snake ∧ k.snake ≠ k'.camel ∧ k.snake ≠ k'.snake

instance (k k' : Key) : Decidable (Apart k k') := inferInstanceAs (Decidable (_ ∧ _))

theorem Apart.symm {k k' : Key} (h : Apart k k') : Apart k' k :=
  ⟨h.1.symm, h.2.2.1.symm, h.2.1.symm, h.2.2.2.symm⟩

/-- No two fields of the record share a spelling. -/
def Separate (r : Record) : Prop := (r.map (·.1)).Pairwise Apart

section Fields

variable {s : Style} {r : Record} {k k' : Key} {v : Option Json}

theorem spelled_ne (s : Style) (h : Apart k k') :
    s.spelled k ≠ k'.camel ∧ s.spelled k ≠ k'.snake := by
  unfold Style.spelled
  split
  · exact h.2.2
  · exact ⟨h.1, h.2.1⟩

theorem fields_cons (s : Style) (k : Key) (v : Option Json) (r : Record) :
    s.fields ((k, v) :: r) = ((s.value? v).map (s.spelled k, ·)).toList ++ s.fields r := by
  unfold Style.fields
  cases h : s.value? v <;> simp [h]

/-- A field is not found in place of one that shares no spelling with it. -/
theorem find?_cons_of_apart (h : Apart k k') (v : Option Json) :
    k'.find? (s.fields ((k, v) :: r)) = k'.find? (s.fields r) := by
  obtain ⟨camel, snake⟩ := spelled_ne s h
  rw [fields_cons]
  cases s.value? v with
  | none => rfl
  | some j =>
    have other : (k'.camel == s.spelled k) = false ∧ (k'.snake == s.spelled k) = false :=
      ⟨beq_false_of_ne camel.symm, beq_false_of_ne snake.symm⟩
    simp [Key.find?, List.lookup_cons, other]

theorem find?_eq_none (h : ∀ x ∈ r, Apart x.1 k) : k.find? (s.fields r) = none := by
  induction r with
  | nil => rfl
  | cons x rest ih =>
    obtain ⟨here, there⟩ := List.forall_mem_cons.mp h
    rw [find?_cons_of_apart here, ih there]

theorem find?_cons_self (j : Json) (fs : List (String × Json)) (none : k.find? fs = none) :
    k.find? ((s.spelled k, j) :: fs) = some (s.spelled k, j) := by
  unfold Key.find? Style.spelled at *
  cases s.snake with
  | false => simp
  | true =>
    -- The first spelling is looked for first, so it must not be there under another one's value.
    by_cases same : k.camel = k.snake
    · simp [same]
    · cases absent : fs.lookup k.camel with
      | some j' => simp [absent] at none
      | none => simp [List.lookup_cons, beq_false_of_ne same, absent]

/-- Each field of a record is found with what was written for it. -/
theorem find?_fields (apart : Separate r) (mem : (k, v) ∈ r) :
    k.find? (s.fields r) = (s.value? v).map (s.spelled k, ·) := by
  induction r with
  | nil => simp at mem
  | cons x rest ih =>
    obtain ⟨here, there⟩ := List.pairwise_cons.mp apart
    rcases List.mem_cons.mp mem with rfl | later
    · have none : k.find? (s.fields rest) = none :=
        find?_eq_none fun x hx => (here x.1 (List.mem_map_of_mem hx)).symm
      rw [fields_cons]
      cases s.value? v with
      | none => exact none
      | some j => exact find?_cons_self j _ none
    · rw [find?_cons_of_apart (here k (List.mem_map_of_mem later)), ih there later]

end Fields

/-- Whatever is written reads as itself, and is never null. -/
structure Reads (check : Json → Checked α) (write : α → Json) : Prop where
  back : ∀ a, check (write a) = .ok a
  present : ∀ a, write a ≠ .null

theorem string_reads : Reads string .string := ⟨fun _ => rfl, nofun⟩

theorem int_reads : Reads int .int := ⟨fun _ => rfl, nofun⟩

theorem bool_reads : Reads bool .bool := ⟨fun _ => rfl, nofun⟩

section Reading

variable {check : Json → Checked α} {write : α → Json} {s : Style} {r : Record} {k : Key} {a : α}

theorem items_back (h : Reads check write) (n : Nat) (xs : List α) :
    items check n (xs.map write) = .ok xs := by
  induction xs generalizing n with
  | nil => rfl
  | cons x rest ih =>
    rw [List.map_cons, items, h.back, ih]
    rfl

/-- A list reads as itself when its items do. -/
theorem list_reads (h : Reads check write) : Reads (list check) fun xs => .array (xs.map write) :=
  ⟨items_back h 0, nofun⟩

theorem entries_back (h : Reads check write) (xs : List (String × α)) :
    entries check (xs.map fun x => (x.1, write x.2)) = .ok xs := by
  induction xs with
  | nil => rfl
  | cons x rest ih =>
    rw [List.map_cons, entries, h.back, ih]
    rfl

/-- So do values under arbitrary keys. -/
theorem dict_reads (h : Reads check write) :
    Reads (dict check) fun xs => .object (xs.map fun x => (x.1, write x.2)) :=
  ⟨entries_back h, nofun⟩

theorem optional_of_ne_null {j : Json} (h : j ≠ .null) : optional check j = (check j).map some := by
  cases j with
  | null => exact absurd rfl h
  | _ => rfl

/-- A field that has to be there reads as its value. -/
theorem required_back (h : Reads check write) (apart : Separate r) (i : Nat)
    (there : r[i]? = some (k, some (write a))) : required k check (s.fields r) = .ok a := by
  rw [required, find?_fields apart (List.mem_of_getElem? there), Style.value?, Option.map_some]
  exact congrArg (under _) (h.back a)

/-- A field with a default reads as the value that was written. -/
theorem withDefault_back (h : Reads check write) (apart : Separate r) (i : Nat)
    (there : r[i]? = some (k, some (write a))) (value : α) :
    withDefault k check value (s.fields r) = .ok a := by
  rw [withDefault, find?_fields apart (List.mem_of_getElem? there), Style.value?, Option.map_some]
  exact congrArg (under _) (h.back a)

/-- A field without a value reads as none, be it null or left out. -/
theorem optional_back (h : Reads check write) (apart : Separate r) {o : Option α} (i : Nat)
    (there : r[i]? = some (k, o.map write)) :
    withDefault k (optional check) none (s.fields r) = .ok o := by
  rw [withDefault, find?_fields apart (List.mem_of_getElem? there)]
  cases o with
  | none =>
    rw [Option.map_none, Style.value?]
    cases s.nulls <;> rfl
  | some a =>
    rw [Option.map_some, Style.value?, Option.map_some]
    have read : optional check (write a) = .ok (some a) := by
      rw [optional_of_ne_null (h.present a), h.back]
      rfl
    exact congrArg (under _) read

end Reading

end QueryFlow.Form
