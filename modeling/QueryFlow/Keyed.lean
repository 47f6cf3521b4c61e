/-!
Values under keys, in the order in which the keys first came. Giving a key a new value leaves it in
its old place.
-/

namespace QueryFlow.Keyed

variable {α β : Type}

/-- Give a key a value: in its old place when the key is there, at the end otherwise. -/
def assign (key : String) (value : α) : List (String × α) → List (String × α)
  | [] => [(key, value)]
  | (k, v) :: rest => if k == key then (k, value) :: rest else (k, v) :: assign key value rest

def assignAll (pairs : List (String × α)) (start : List (String × α)) : List (String × α) :=
  pairs.foldl (fun sofar (k, v) => assign k v sofar) start

@[simp] theorem lookup_assign_self (key : String) (value : α) (xs : List (String × α)) :
    (assign key value xs).lookup key = some value := by
  induction xs with
  | nil => simp [assign]
  | cons p r ih =>
    obtain ⟨k, v⟩ := p
    by_cases h : k = key
    · simp [assign, h]
    · have hb : (key == k) = false := by simp [Ne.symm h]
      simp [assign, h, List.lookup_cons, hb, ih]

theorem lookup_assign_of_ne {key other : String} (value : α) (xs : List (String × α))
    (h : other ≠ key) : (assign key value xs).lookup other = xs.lookup other := by
  have hb : (other == key) = false := by simp [h]
  induction xs with
  | nil => simp [assign, List.lookup_cons, hb]
  | cons p r ih =>
    obtain ⟨k, v⟩ := p
    by_cases hk : k = key
    · subst hk
      simp [assign, List.lookup_cons, hb]
    · simp only [assign, beq_iff_eq, hk, if_false, List.lookup_cons, ih]

theorem assign_of_notMem {key : String} (value : α) {xs : List (String × α)}
    (h : key ∉ xs.map Prod.fst) : assign key value xs = xs ++ [(key, value)] := by
  induction xs with
  | nil => rfl
  | cons x rest ih =>
    obtain ⟨k, v⟩ := x
    simp only [List.map_cons, List.mem_cons, not_or] at h
    simp [assign, Ne.symm h.1, ih h.2]

/-- Keys that are all new and different stay as they are given. -/
theorem assignAll_of_nodup {pairs : List (String × α)} (start : List (String × α))
    (h : ((start ++ pairs).map Prod.fst).Nodup) : assignAll pairs start = start ++ pairs := by
  induction pairs generalizing start with
  | nil => simp [assignAll]
  | cons x rest ih =>
    obtain ⟨k, v⟩ := x
    have fresh : k ∉ start.map Prod.fst := by
      rw [List.map_append, List.nodup_append] at h
      exact fun hk => h.2.2 k hk k (by simp) rfl
    rw [List.append_cons] at h ⊢
    rw [← ih _ h, ← assign_of_notMem v fresh]
    rfl

theorem lookup_assign (key other : String) (value : α) (xs : List (String × α)) :
    (assign key value xs).lookup other = if other = key then some value else xs.lookup other := by
  split
  case isTrue h =>
    subst h
    exact lookup_assign_self other value xs
  case isFalse h => exact lookup_assign_of_ne value xs h

/-- A key is known after several assignments when one of them gives it a value. -/
theorem isSome_lookup_assignAll {key : String} {pairs start : List (String × α)} :
    ((assignAll pairs start).lookup key).isSome = true ↔
      (∃ x ∈ pairs, x.1 = key) ∨ (start.lookup key).isSome = true := by
  induction pairs generalizing start with
  | nil => simp [assignAll]
  | cons x rest ih =>
    have step : assignAll (x :: rest) start = assignAll rest (assign x.1 x.2 start) := rfl
    rw [step, ih, lookup_assign]
    by_cases h : x.1 = key
    · simp [h]
    · simp [h, Ne.symm h]

end QueryFlow.Keyed
