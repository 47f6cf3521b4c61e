import QueryFlow.Proofs.Builder.Count
import Mathlib.Data.List.Induction
import Mathlib.Logic.Function.Basic

/-!
What names stand for in a query. At first every name stands for the table that bears it. A named
query takes its name for itself, and an alias stands for whatever the table under it stands for at
that place. So a name keeps what it stands for until it is given again. Nothing is said about
colors here.
-/

namespace QueryFlow

/-- What a name can stand for: a table, or the named query at this place. -/
inductive Owner where
  | table (name : String)
  | named (place : Nat)
  deriving Repr, DecidableEq

/-- What each name stands for. -/
abbrev Standing := String → Owner

/-- An entry that is read from a table, and what the name of the table stands for there. -/
structure Reading where
  entry : FromEntry
  owner : Owner

/-- The place of the last of these names that is the given one. -/
def lastPlace? (names : List String) (name : String) : Option Nat :=
  (names.zipIdx.reverse.find? (·.1 == name)).map (·.2)

theorem lastPlace?_append (names : List String) (last name : String) :
    lastPlace? (names ++ [last]) name =
      if last = name then some names.length else lastPlace? names name := by
  by_cases same : last = name <;> simp [lastPlace?, List.zipIdx_append, same]

theorem lastPlace?_eq_none_iff {names : List String} {name : String} :
    lastPlace? names name = none ↔ name ∉ names := by
  induction names using List.reverseRecOn with
  | nil => simp [lastPlace?]
  | append_singleton names last ih =>
    rw [lastPlace?_append]
    by_cases same : last = name
    · simp [same]
    · simp [same, Ne.symm same, ih]

namespace Standing

def behind (means : Standing) (e : FromEntry) : Standing :=
  match e.alias with
  | some shown => Function.update means shown (means e.table)
  | none => means

/-- What names stand for inside of a call that has this many named queries in front. -/
def inside (means : Standing) (place : Nat) : Builder.Call → Standing
  | .named name _ => Function.update means name (.named place)
  | .main _ => means

/-- What names stand for behind some calls, where some names are bound before them. -/
def after (names : List String) (means : Standing) : List Builder.Call → Standing
  | [] => means
  | call :: rest =>
    after (names ++ call.name?.toList)
      (call.body.entries.foldl behind (means.inside names.length call)) rest

/-- The entry as one that is read from a table, unless its name is bound. -/
def read (means : Standing) (names : List String) (e : FromEntry) : List Reading :=
  if names.contains e.table then [] else [⟨e, means e.table⟩]

/-- The entries of a FROM clause that are read from tables. -/
def readAll (means : Standing) (names : List String) : List FromEntry → List Reading
  | [] => []
  | e :: rest => means.read names e ++ (means.behind e).readAll names rest

/-- The entries of some calls that are read from tables, where some names are bound before. -/
def readings (names : List String) (means : Standing) : List Builder.Call → List Reading
  | [] => []
  | call :: rest =>
    (means.inside names.length call).readAll names call.body.entries
      ++ readings (names ++ call.name?.toList)
          (call.body.entries.foldl behind (means.inside names.length call)) rest

/-- Whose color an entry's node has: that of the named query which the name of the table means, or
else that of what the name stands for. -/
def source (means : Standing) (names : List String) (e : FromEntry) : Owner :=
  match lastPlace? names e.table with
  | some k => .named k
  | none => means e.table

variable {means : Standing} {names : List String} {name : String} {e : FromEntry}
  {entries : List FromEntry} {calls : List Builder.Call}

/-- The name that an entry shows stands for what its table stood for in front of it. -/
theorem behind_visibleName (means : Standing) (e : FromEntry) :
    means.behind e e.visibleName = means e.table := by
  unfold behind FromEntry.visibleName
  cases e.alias with
  | none => rfl
  | some shown => exact Function.update_self shown (means e.table) means

theorem eq_source_iff (means : Standing) (names : List String) (e : FromEntry) :
    means e.table = means.source names e ↔
      ∀ k, lastPlace? names e.table = some k → means e.table = .named k := by
  unfold source
  cases lastPlace? names e.table with
  | none => simp
  | some k => simp

/-- Behind an entry, a name stands for what it stood for or for what the table stood for. -/
theorem behind_cases (means : Standing) (e : FromEntry) (name : String) :
    means.behind e name = means name ∨ means.behind e name = means e.table := by
  unfold behind
  cases e.alias with
  | none => exact .inl rfl
  | some shown =>
    by_cases same : name = shown
    · subst same
      exact .inr (Function.update_self name (means e.table) means)
    · exact .inl (Function.update_of_ne same (means e.table) means)

theorem behind_mem {drawn : List Owner} (hn : means name ∈ drawn) (he : means e.table ∈ drawn) :
    means.behind e name ∈ drawn := by
  rcases means.behind_cases e name with old | new
  · exact old ▸ hn
  · exact new ▸ he

/-- An entry leaves a name as it is unless it gives it to another table. -/
theorem behind_of_own (own : e.alias = some name → e.table = name) :
    means.behind e name = means name := by
  unfold behind
  cases ha : e.alias with
  | none => rfl
  | some shown =>
    by_cases same : shown = name
    · subst same
      exact (Function.update_self shown (means e.table) means).trans (congrArg means (own ha))
    · exact Function.update_of_ne (Ne.symm same) (means e.table) means

theorem foldl_behind_of_own (own : ∀ e ∈ entries, e.alias = some name → e.table = name) :
    entries.foldl behind means name = means name := by
  induction entries generalizing means with
  | nil => rfl
  | cons e rest ih =>
    obtain ⟨here, there⟩ := List.forall_mem_cons.mp own
    rw [List.foldl_cons, ih there, behind_of_own here]

theorem inside_of_ne {call : Builder.Call} (place : Nat) (other : call.name? ≠ some name) :
    means.inside place call name = means name := by
  cases call with
  | main s => rfl
  | named bound s =>
    have ne : name ≠ bound := fun same => other (congrArg some same.symm)
    exact Function.update_of_ne ne (.named place) means

/-- A name that every entry gives to its own table stands for one thing at all entries. -/
theorem owner_of_mem_readAll (own : ∀ e ∈ entries, e.alias = some name → e.table = name)
    {r : Reading} (hr : r ∈ means.readAll names entries) (ht : r.entry.table = name) :
    r.owner = means name := by
  induction entries generalizing means with
  | nil => simp [readAll] at hr
  | cons e rest ih =>
    obtain ⟨here, there⟩ := List.forall_mem_cons.mp own
    rcases List.mem_append.mp hr with first | later
    · unfold read at first
      split at first
      · simp at first
      · obtain rfl := List.mem_singleton.mp first
        exact congrArg means ht
    · rw [ih there later, behind_of_own here]

/-- So it is in a whole run in which no query takes the name. -/
theorem owner_of_mem_readings (free : ∀ call ∈ calls, call.name? ≠ some name)
    (own : ∀ call ∈ calls, ∀ e ∈ call.body.entries, e.alias = some name → e.table = name)
    {r : Reading} (hr : r ∈ readings names means calls) (ht : r.entry.table = name) :
    r.owner = means name := by
  induction calls generalizing names means with
  | nil => simp [readings] at hr
  | cons call rest ih =>
    obtain ⟨other, others⟩ := List.forall_mem_cons.mp free
    obtain ⟨here, there⟩ := List.forall_mem_cons.mp own
    rcases List.mem_append.mp hr with first | later
    · rw [owner_of_mem_readAll here first ht, inside_of_ne _ other]
    · rw [ih others there later, foldl_behind_of_own here, inside_of_ne _ other]

end Standing

namespace Query

variable (q : Query)

/-- The entries of a query that are read from tables, each with what its name stands for. -/
def readings : List Reading := Standing.readings [] Owner.table q.calls

/-- What names stand for in the main query, behind some of its entries. -/
def standing (front : List FromEntry) : Standing :=
  front.foldl Standing.behind (Standing.after [] Owner.table q.namedCalls)

/-- The place of the named query that a name means in the main query. -/
def place? (name : String) : Option Nat := lastPlace? (q.bindings.map (·.name)) name

end Query

end QueryFlow
