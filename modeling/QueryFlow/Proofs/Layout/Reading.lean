import QueryFlow.Decimal.Binary
import QueryFlow.Proofs.Layout.Legible
import Mathlib.Data.List.Perm.Basic
import Mathlib.Data.Rat.Cast.Defs

/-!
What an answer of the solver tells, read in one kind of number or another. The program reads
doubles; the same texts can be read as rational numbers, without any rounding. The main statements
are that an answer tells one thing at most, whatever the order of its objects, and that what is read
in doubles is the geometry that the program works with. How far a double is from the number that it
stands for is not said here.
-/

namespace QueryFlow.Decimal

open QueryFlow.Text

/-- The digits and the exponent of an unsigned number. -/
def numeral? (cs : List Char) : Option (Nat × Int) :=
  let (whole, rest) := digitRun cs
  let (part, rest) := match rest with
    | '.' :: r => digitRun r
    | r => ([], r)
  if whole.isEmpty && part.isEmpty then none
  else (exponent? rest).map fun e => (digitsValue (whole ++ part), e - part.length)

/-- Doubles are rounded from the digits and the exponent. -/
theorem unsigned?_eq (cs : List Char) :
    unsigned? cs = (numeral? cs).map fun number => toFloat number.1 number.2 := by
  simp only [unsigned?, numeral?, apply_ite (Option.map _), Option.map_none, Option.map_map]
  rfl

/-- The number that a text writes, without rounding; none for the infinities and for NaN. -/
def rational? (s : String) : Option ℚ :=
  let (negative, cs) := splitSign (strip s).toList
  (numeral? cs).map fun (digits, exponent) =>
    (if negative then -1 else 1) * digits * 10 ^ exponent

theorem isSome_float?_of_rational? {s : String} {q : ℚ} (read : rational? s = some q) :
    (float? s).isSome = true := by
  simp only [rational?, Option.map_eq_some_iff] at read
  obtain ⟨number, found, -⟩ := read
  have unsigned : (unsigned? (splitSign (strip s).toList).2).isSome = true := by
    rw [unsigned?_eq, Option.isSome_map]
    exact found ▸ rfl
  simp [float?, unsigned]

/-- The number that a finite double stands for. -/
def Binary.value (b : Binary) : ℚ :=
  (if b.negative then -1 else 1) * b.significand * 2 ^ b.exponent

end QueryFlow.Decimal

namespace QueryFlow.Layout

/-- A rectangle by its sides. They are counted to the right and upwards. -/
structure Sides (α : Type) where
  left : α
  bottom : α
  right : α
  top : α
  deriving DecidableEq

/-- How numbers are read: those in texts, and sizes, which need not be there. -/
structure Numerals (α : Type) where
  number? : String → Option α
  size? : Option Json → Option α

namespace Numerals

/-- Numbers as the program reads them. -/
def double : Numerals Float := ⟨Decimal.float?, fun j => (Answer.size j).toOption⟩

/-- A size without rounding. -/
def exactSize? : Option Json → Option ℚ
  | none => some 0
  | some (.float x) => (Decimal.Binary.ofFloat? x).map (·.value)
  | some (.bool b) => some (if b then 1 else 0)
  | some (.int n) => if Within n then some n else none
  | some (.string s) => Decimal.rational? s
  | some _ => none

/-- Numbers without rounding. -/
def exact : Numerals ℚ := ⟨Decimal.rational?, exactSize?⟩

variable {α : Type} (r : Numerals α)

/-- A value is a text of these numbers, parted by commas. -/
def Lists (j : Json) (xs : List α) : Prop :=
  ∃ s, j = .string s ∧ List.Forall₂ (fun part x => r.number? part = some x) (Text.parts ',' s) xs

/-- An object tells where a cluster or a node is. A cluster has a box, and a name with the start of
such names; a node has a place and no box, and its name is its id. -/
inductive Places : Json → Placement α → Prop
  | cluster {fields : List (String × Json)} {group : String} {box : Json}
      {left bottom right top : α} (named : Answer.IsCluster fields group box)
      (sides : r.Lists box [left, bottom, right, top]) :
      Places (.object fields) (.cluster group left bottom right top)
  | node {fields : List (String × Json)} {id : String} {place : Json} {x y width height : α}
      {more : List α} (named : Answer.nameOf fields = .string id)
      (bare : fields.lookup "bb" = none) (at' : fields.lookup "pos" = some place)
      (middle : r.Lists place (x :: y :: more))
      (wide : r.size? (fields.lookup "width") = some width)
      (high : r.size? (fields.lookup "height") = some height) :
      Places (.object fields) (.node id x y width height)

/-- An answer tells where the whole is, and where each of its objects is. -/
structure Tells (fields : List (String × Json)) (listed : List Json) (whole : Sides α)
    (placements : List (Placement α)) : Prop where
  whole : r.Lists ((fields.lookup "bb").getD Answer.noBox)
    [whole.left, whole.bottom, whole.right, whole.top]
  objects : Answer.Lists (fields.lookup "objects") listed
  placed : List.Forall₂ r.Places listed placements

/-- The same answer with its objects in another order. -/
structure Relisted (fields : List (String × Json)) (listed : List Json)
    (fields' : List (String × Json)) (listed' : List Json) : Prop where
  box : fields'.lookup "bb" = fields.lookup "bb"
  objects : Answer.Lists (fields'.lookup "objects") listed'
  perm : listed.Perm listed'

section Unique

variable {r} {j : Json} {fields fields' : List (String × Json)} {listed listed' : List Json}
  {whole whole' : Sides α} {placements placements' : List (Placement α)}

theorem lists_string_iff {text : String} {xs : List α} :
    r.Lists (.string text) xs ↔ (Text.parts ',' text).mapM r.number? = some xs := by
  simp [Lists, Answer.mapM_eq_some_iff]

theorem lists_rightUnique : Relator.RightUnique r.Lists := by
  rintro _ xs ys ⟨s, rfl, these⟩ ⟨_, ⟨⟩, those⟩
  exact List.right_unique_forall₂' (fun _ _ _ one other => Option.some.inj (one.symm.trans other))
    these those

theorem places_rightUnique : Relator.RightUnique r.Places := by
  intro j p q one other
  cases one with
  | cluster named sides =>
    cases other with
    | cluster named' sides' =>
      obtain rfl := Option.some.inj (named.1.symm.trans named'.1)
      have name := Json.string.inj (named.2.symm.trans named'.2)
      obtain ⟨⟩ := lists_rightUnique sides sides'
      simp only [← String.toList_inj, String.toList_append, List.append_cancel_left_eq] at name
      rw [String.toList_inj.mp name]
    | node _ bare => exact absurd (named.1.symm.trans bare) nofun
  | node named bare at' middle wide high =>
    cases other with
    | cluster named' => exact absurd (named'.1.symm.trans bare) nofun
    | node named' _ at'' middle' wide' high' =>
      obtain rfl := Json.string.inj (named.symm.trans named')
      obtain rfl := Option.some.inj (at'.symm.trans at'')
      obtain rfl := Option.some.inj (wide.symm.trans wide')
      obtain rfl := Option.some.inj (high.symm.trans high')
      obtain ⟨⟩ := lists_rightUnique middle middle'
      rfl

/-- An answer tells one thing at most. -/
theorem Tells.unique (one : r.Tells fields listed whole placements)
    (other : r.Tells fields listed' whole' placements') :
    whole' = whole ∧ placements' = placements := by
  obtain ⟨left, bottom, right, top⟩ := whole
  obtain ⟨left', bottom', right', top'⟩ := whole'
  obtain ⟨⟩ := lists_rightUnique one.whole other.whole
  obtain rfl : listed = listed' := Except.ok.inj <|
    (Answer.objects_eq_ok_iff.mpr one.objects).symm.trans
      (Answer.objects_eq_ok_iff.mpr other.objects)
  exact ⟨rfl, List.right_unique_forall₂' places_rightUnique other.placed one.placed⟩

/-- In another order, the objects are told to be where they were. -/
theorem Tells.relisted (told : r.Tells fields listed whole placements)
    (again : Relisted fields listed fields' listed') :
    ∃ placements', r.Tells fields' listed' whole placements' ∧ placements.Perm placements' := by
  obtain ⟨placements', placed, perm⟩ := List.perm_comp_forall₂ again.perm.symm told.placed
  exact ⟨placements', ⟨again.box ▸ told.whole, again.objects, placed⟩, perm.symm⟩

end Unique

section Double

variable {fields : List (String × Json)} {listed : List Json} {j : Json}

theorem double_lists_iff {xs : List Float} : double.Lists j xs ↔ Answer.numbers j = .ok xs := by
  rw [Answer.numbers_eq_ok_iff, Lists, double]

theorem double_size_iff {size : Option Json} {x : Float} :
    double.size? size = some x ↔ Answer.size size = .ok x := by
  simp only [double]
  cases Answer.size size <;> simp [Except.toOption]

theorem placement_of_places {p : Placement Float} (told : double.Places j p) :
    Answer.placement j = .ok (some p) := by
  cases told with
  | cluster named sides =>
    rw [Answer.placement_cluster named, Answer.cluster, double_lists_iff.mp sides]
    rfl
  | node named bare at' middle wide high =>
    have plain : Answer.IsPlain _ := fun _ _ h => absurd (h.1.symm.trans bare) nofun
    rw [Answer.placement_plain plain fun there => by simp [bare] at there, at', named]
    exact Answer.node_of_read (double_lists_iff.mp middle) (double_size_iff.mp wide)
      (double_size_iff.mp high) trivial

/-- What an answer tells in doubles is its geometry. -/
theorem geometry_of_told {whole : Sides Float} {placements : List (Placement Float)}
    (told : double.Tells fields listed whole placements) :
    Answer.geometry (.object fields) = .ok ⟨whole.left, whole.top, placements⟩ := by
  have each : listed.mapM Answer.placement = .ok (placements.map some) :=
    Answer.mapM_eq_ok_iff.mpr (List.forall₂_map_right_iff.mpr
      (told.placed.imp fun _ _ => placement_of_places))
  rw [Answer.geometry_of_read (double_lists_iff.mp told.whole)
    (Answer.objects_eq_ok_iff.mpr told.objects) each]
  simp

end Double

section Exact

variable {fields : List (String × Json)} {listed : List Json} {j : Json}

theorem double_number_of_exact {text : String} {q : ℚ} (read : exact.number? text = some q) :
    ∃ x, double.number? text = some x := by
  simp only [exact] at read
  simp only [double]
  exact Option.isSome_iff_exists.mp (Decimal.isSome_float?_of_rational? read)

theorem double_lists_of_exact {xs : List ℚ} (read : exact.Lists j xs) :
    ∃ ys, double.Lists j ys ∧ ys.length = xs.length := by
  obtain ⟨s, rfl, parts⟩ := read
  obtain ⟨ys, parts'⟩ := Answer.exists_forall₂_iff.mpr fun part mem =>
    (Answer.exists_forall₂_iff.mp ⟨xs, parts⟩ part mem).elim fun _ => double_number_of_exact
  exact ⟨ys, ⟨s, rfl, parts'⟩, parts'.length_eq.symm.trans parts.length_eq⟩

theorem double_size_of_exact {size : Option Json} {q : ℚ} (read : exact.size? size = some q) :
    ∃ x, double.size? size = some x := by
  simp only [double_size_iff]
  simp only [exact] at read
  cases size with
  | none => exact ⟨_, rfl⟩
  | some j =>
    refine Answer.isSize_iff.mp ?_
    cases j with
    | float x => exact .float x
    | bool b => exact .bool b
    | int n =>
      by_cases near : Within n
      case pos => exact .int near
      case neg => simp [exactSize?, near] at read
    | string s =>
      simp only [exactSize?] at read
      exact .string (Decimal.isSome_float?_of_rational? read)
    | _ => cases read

theorem double_places_of_exact {p : Placement ℚ} (told : exact.Places j p) :
    ∃ p', double.Places j p' ∧ p'.id = p.id := by
  cases told with
  | cluster named sides =>
    obtain ⟨ys, read, four⟩ := double_lists_of_exact sides
    obtain ⟨left, bottom, right, top, rfl⟩ := List.length_eq_four.mp four
    exact ⟨_, .cluster named read, rfl⟩
  | node named bare at' middle wide high =>
    obtain ⟨ys, read, several⟩ := double_lists_of_exact middle
    obtain ⟨width, wide'⟩ := double_size_of_exact wide
    obtain ⟨height, high'⟩ := double_size_of_exact high
    match ys with
    | [] | [_] => simp at several
    | x :: y :: more => exact ⟨_, .node named bare at' read wide' high', rfl⟩

/-- What can be read without rounding can be read in doubles. -/
theorem Tells.double {whole : Sides ℚ} {placements : List (Placement ℚ)}
    (told : exact.Tells fields listed whole placements) :
    ∃ whole' placements', double.Tells fields listed whole' placements' ∧
      placements'.map Placement.id = placements.map Placement.id := by
  obtain ⟨sides, read, four⟩ := double_lists_of_exact told.whole
  obtain ⟨left, bottom, right, top, rfl⟩ := List.length_eq_four.mp four
  have each : ∃ placements', List.Forall₂ Numerals.double.Places listed placements' ∧
      placements'.map Placement.id = placements.map Placement.id := by
    have placed := told.placed
    clear read four told
    induction placed with
    | nil => exact ⟨[], .nil, rfl⟩
    | cons here _ ih =>
      obtain ⟨p', told', same⟩ := double_places_of_exact here
      obtain ⟨rest, there, others⟩ := ih
      exact ⟨p' :: rest, .cons told' there, by simp [same, others]⟩
  obtain ⟨placements', placed, ids⟩ := each
  exact ⟨⟨left, bottom, right, top⟩, placements', ⟨read, told.objects, placed⟩, ids⟩

end Exact

end Numerals

end QueryFlow.Layout
