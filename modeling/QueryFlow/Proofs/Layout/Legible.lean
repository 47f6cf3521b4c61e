import QueryFlow.Layout.Answer
import Mathlib.Data.List.Forall2

/-!
Which answers of the solver have a geometry. An answer is legible when it has the shape that is
looked for, object by object; what is not looked at may be anything. The main statement is that
legible answers are exactly those whose geometry is found, and that the geometry places exactly the
nodes that the objects are about. Where they are placed is not said here.
-/

namespace QueryFlow.Layout

/-- The whole number is near to a finite double. -/
def Within (n : Int) : Prop := n.natAbs < Decimal.floatBound

instance (n : Int) : Decidable (Within n) := inferInstanceAs (Decidable (_ < _))

theorem isSome_ofInt?_iff {n : Int} : (Decimal.ofInt? n).isSome = true ↔ Within n := by
  unfold Decimal.ofInt? Within
  split
  case isTrue large => simpa using large
  case isFalse small => simpa using small

/-- The object of the solver that a placement is about. -/
def Placement.id {α : Type} : Placement α → String
  | .cluster group .. => group
  | .node id .. => id

namespace Answer

/-- What can be a size: a number, a truth value, or a text of a number. -/
inductive IsSize : Json → Prop
  | float (x : Float) : IsSize (.float x)
  | bool (b : Bool) : IsSize (.bool b)
  | int {n : Int} (near : Within n) : IsSize (.int n)
  | string {s : String} (number : (Decimal.float? s).isSome = true) : IsSize (.string s)

/-- What can be a name, although only texts are names of nodes. -/
def IsKey : Json → Prop
  | .array _ | .object _ => False
  | _ => True

/-- What can be run through: a list, or something without parts. -/
inductive Lists : Option Json → List Json → Prop
  | absent : Lists none []
  | array (js : List Json) : Lists (some (.array js)) js
  | noFields : Lists (some (.object [])) []
  | noText : Lists (some (.string "")) []

section Fields

variable (fields : List (String × Json))

def nameOf : Json := (fields.lookup "name").getD (.string "")

/-- The object is the cluster of this group, with this box. -/
def IsCluster (group : String) (box : Json) : Prop :=
  fields.lookup "bb" = some box ∧ nameOf fields = .string (clusterStart ++ group)

/-- The object is no cluster. -/
def IsPlain : Prop := ∀ group box, ¬ IsCluster fields group box

end Fields

section Lists

theorem mapM_eq_some_iff {α β : Type} {f : α → Option β} {xs : List α} {ys : List β} :
    xs.mapM f = some ys ↔ List.Forall₂ (fun x y => f x = some y) xs ys := by
  induction xs generalizing ys with
  | nil => simp [eq_comm]
  | cons x rest ih =>
    rw [List.mapM_cons, List.forall₂_cons_left_iff]
    simp only [Option.bind_eq_bind, Option.bind_eq_some_iff, Option.pure_def, Option.some.injEq, ih]
    constructor
    · rintro ⟨y, here, ys, there, rfl⟩
      exact ⟨y, ys, here, there, rfl⟩
    · rintro ⟨y, ys, here, there, rfl⟩
      exact ⟨y, here, ys, there, rfl⟩

theorem mapM_eq_ok_iff {α β ε : Type} {f : α → Except ε β} {xs : List α} {ys : List β} :
    xs.mapM f = .ok ys ↔ List.Forall₂ (fun x y => f x = .ok y) xs ys := by
  induction xs generalizing ys with
  | nil => simp [eq_comm, pure, Except.pure]
  | cons x rest ih =>
    rw [List.mapM_cons, List.forall₂_cons_left_iff]
    cases f x with
    | error e => simp [bind, Except.bind]
    | ok y =>
      cases there : rest.mapM f with
      | error e => simp [there, ← ih, bind, Except.bind]
      | ok ys => simp [there, ← ih, bind, Except.bind, pure, Except.pure, eq_comm]

theorem exists_forall₂_iff {α β : Type} {related : α → β → Prop} {xs : List α} :
    (∃ ys, List.Forall₂ related xs ys) ↔ ∀ x ∈ xs, ∃ y, related x y := by
  induction xs with
  | nil => simp
  | cons x rest ih => simp [List.forall₂_cons_left_iff, ← ih]

theorem objects_eq_ok_iff {j : Option Json} {js : List Json} :
    objects j = .ok js ↔ Lists j js := by
  constructor
  · intro h
    unfold objects at h
    split at h
    case h_1 => cases h; exact .absent
    case h_2 => cases h; exact .array _
    case h_3 => cases h; exact .noFields
    case h_4 => cases h
    case h_5 s =>
      split at h
      case isTrue empty =>
        cases h
        rw [String.isEmpty_iff] at empty
        exact empty ▸ .noText
      case isFalse => cases h
    case h_6 => cases h
  · rintro (_ | _ | _ | _) <;> rfl

end Lists

section Numbers

theorem numbers_eq_ok_iff {j : Json} {xs : List Float} :
    numbers j = .ok xs ↔ ∃ s, j = .string s ∧
      List.Forall₂ (fun part x => Decimal.float? part = some x) (Text.parts ',' s) xs := by
  cases j with
  | string s =>
    have parts : numbers? s = some xs ↔ _ := mapM_eq_some_iff
    rw [numbers]
    cases h : numbers? s <;> simp_all
  | _ => simp [numbers]

theorem isSize_iff {j : Json} : IsSize j ↔ ∃ x, size (some j) = .ok x := by
  constructor
  · rintro (x | b | near | number)
    · exact ⟨x, rfl⟩
    · exact ⟨_, rfl⟩
    · obtain ⟨x, found⟩ := Option.isSome_iff_exists.mp (isSome_ofInt?_iff.mpr near)
      exact ⟨x, by unfold size; dsimp only; rw [found]⟩
    · obtain ⟨x, found⟩ := Option.isSome_iff_exists.mp number
      exact ⟨x, by unfold size; dsimp only; rw [found]⟩
  · rintro ⟨x, found⟩
    unfold size at found
    cases j with
    | float x => exact .float x
    | bool b => exact .bool b
    | int n =>
      dsimp only at found
      split at found
      case h_1 number => exact .int (isSome_ofInt?_iff.mp (number ▸ rfl))
      case h_2 => cases found
    | string s =>
      dsimp only at found
      split at found
      case h_1 number => exact .string (number ▸ rfl)
      case h_2 => cases found
    | _ => cases found

end Numbers

section Objects

variable {fields : List (String × Json)}

theorem behind?_eq_some_iff {start text rest : String} :
    behind? start text = some rest ↔ text = start ++ rest := by
  unfold behind?
  split
  case isTrue front =>
    obtain ⟨more, split⟩ := List.isPrefixOf_iff_prefix.mp front
    rw [← String.toList_inj, String.toList_append, ← split, ← String.length_toList,
      List.drop_left, Option.some.injEq, ← String.toList_inj, String.toList_ofList,
      List.append_cancel_left_eq]
  case isFalse other =>
    refine ⟨nofun, ?_⟩
    rintro rfl
    refine absurd (List.isPrefixOf_iff_prefix.mpr ?_) other
    rw [String.toList_append]
    exact List.prefix_append _ _

/-- What an object with a place says, when all of it is read. -/
theorem node_of_read {name place : Json} {x y width height : Float} {more : List Float}
    (at' : numbers place = .ok (x :: y :: more)) (wide : size (fields.lookup "width") = .ok width)
    (high : size (fields.lookup "height") = .ok height) (key : IsKey name) :
    node name place fields = .ok (name.asString?.map (.node · x y width height)) := by
  unfold node
  rw [at', wide, high]
  cases name with
  | array => cases key
  | object => cases key
  | _ => rfl

theorem placement_cluster {group : String} {box : Json} (h : IsCluster fields group box) :
    placement (.object fields) = (cluster group box).map some := by
  obtain ⟨found, name⟩ := h
  unfold nameOf at name
  have behind : behind? clusterStart (clusterStart ++ group) = some group :=
    behind?_eq_some_iff.mpr rfl
  simp only [placement, found, name, clusterOf?, behind]
  rfl

/-- A plain object is looked at for its place alone. -/
theorem placement_plain (plain : IsPlain fields)
    (named : (fields.lookup "bb").isSome = true → ∃ s, nameOf fields = .string s) :
    placement (.object fields) = match fields.lookup "pos" with
      | some place => node (nameOf fields) place fields
      | none => .ok none := by
  have none : clusterOf? (nameOf fields) (fields.lookup "bb") = .ok none := by
    cases found : fields.lookup "bb" with
    | none => rfl
    | some box =>
      obtain ⟨s, name⟩ := named (found ▸ rfl)
      rw [name, clusterOf?]
      cases front : behind? clusterStart s with
      | none => rfl
      | some group =>
        rw [behind?_eq_some_iff.mp front] at name
        exact absurd ⟨found, name⟩ (plain group box)
  unfold nameOf at none
  simp only [placement, none]
  rfl

end Objects

section Answers

variable {fields : List (String × Json)} {listed : List Json}

theorem geometry_of_read {left right bottom top : Float} {rs : List (Option (Placement Float))}
    (box : numbers ((fields.lookup "bb").getD noBox) = .ok [left, right, bottom, top])
    (list : objects (fields.lookup "objects") = .ok listed)
    (each : listed.mapM placement = .ok rs) :
    geometry (.object fields) = .ok ⟨left, top, rs.filterMap id⟩ := by
  rw [geometry, box, list]
  change (listed.mapM placement >>= _) = _
  rw [each]
  rfl

end Answers

end Answer

end QueryFlow.Layout
