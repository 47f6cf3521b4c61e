import QueryFlow.Proofs.Graph.Violations
import QueryFlow.Proofs.Keyed
import QueryFlow.Proofs.Layout.Endings
import QueryFlow.Proofs.Layout.Reading
import Mathlib.Tactic.Linarith
import Mathlib.Tactic.Ring

/-!
Where the boxes of a layout are. An answer counts upwards from a corner of its own, boxes count
downwards from the upper left corner of the whole or of the group that they are in. The main
statements are that each placed node has the box of its own object, in whatever order the objects
come, and that boxes lie inside the boxes of their groups when the objects do. Corners and sizes are
rational numbers here; what rounding does to the boxes in doubles is not said.
-/

namespace QueryFlow.Layout

open Numerals (Relisted)

section Lookup

variable {α : Type} [Sub α] [Mul α] [Div α] [OfNat α 2] [OfNat α 72]
  {g : Graph} {n : Node} {geo geo' : Geometry α} {spare : Box α} {p q : Placement α}

theorem map_boxOf_ids (geo : Geometry α) (placements : List (Placement α)) :
    (placements.map geo.boxOf).map Prod.fst = placements.map Placement.id := by
  rw [List.map_map]
  exact List.map_congr_left fun p _ => boxOf_id geo p

theorem lookup_boxes (distinct : (geo.placements.map Placement.id).Nodup)
    (mem : p ∈ geo.placements) : geo.boxes.lookup p.id = some (geo.boxOf p).2 := by
  have keyed : geo.placements.map geo.boxOf =
      geo.placements.map fun p => (p.id, (geo.boxOf p).2) :=
    List.map_congr_left fun p _ => Prod.ext (boxOf_id geo p) rfl
  rw [Geometry.boxes, keyed]
  exact Keyed.lookup_assignAll_map distinct mem

theorem lookup_boxes_eq_none {id : String} (unplaced : id ∉ geo.placements.map Placement.id) :
    geo.boxes.lookup id = none := by
  rw [← Option.not_isSome_iff_eq_none, isSome_lookup_boxes_iff]
  simpa using unplaced

theorem lookup_positions (distinct : g.ids.Nodup) (mem : n ∈ g.nodes) :
    (geo.positions g.nodes spare).lookup n.id = some ((boxOfNode? geo.boxes n).getD spare) :=
  Keyed.lookup_assignAll_map distinct mem

/-- The box of a node whose parent is placed is seen from the box of the parent. -/
theorem boxOfNode?_inner (distinct : (geo.placements.map Placement.id).Nodup)
    (hp : p ∈ geo.placements) (own : p.id = n.id) (hq : q ∈ geo.placements)
    (parent : n.parent = some q.id) (named : q.id ≠ "") :
    boxOfNode? geo.boxes n = some ((geo.boxOf q).2.within (geo.boxOf p).2) := by
  have outer : parentBox? geo.boxes n = some (geo.boxOf q).2 := by
    simp only [parentBox?, parent, Option.bind_some, nonEmpty?_eq_some.mpr ⟨rfl, named⟩,
      lookup_boxes distinct hq]
  rw [boxOfNode?, ← own, lookup_boxes distinct hp, Option.map_some, outer]

theorem boxOfNode?_outer (distinct : (geo.placements.map Placement.id).Nodup)
    (hp : p ∈ geo.placements) (own : p.id = n.id)
    (free : ∀ q ∈ geo.placements, n.parent ≠ some q.id) :
    boxOfNode? geo.boxes n = some (geo.boxOf p).2 := by
  have outer : parentBox? geo.boxes n = none := by
    rw [parentBox?, Option.bind_eq_none_iff]
    intro id found
    obtain ⟨_, parent, named⟩ := Option.bind_eq_some_iff.mp found
    obtain ⟨rfl, _⟩ := nonEmpty?_eq_some.mp named
    refine lookup_boxes_eq_none fun placed => ?_
    obtain ⟨q, hq, rfl⟩ := List.mem_map.mp placed
    exact free q hq parent
  rw [boxOfNode?, ← own, lookup_boxes distinct hp, Option.map_some, outer]

theorem boxOfNode?_unplaced (unplaced : n.id ∉ geo.placements.map Placement.id) :
    boxOfNode? geo.boxes n = none := by
  rw [boxOfNode?, lookup_boxes_eq_none unplaced, Option.map_none]

section Congr

variable (same : ∀ id, geo.boxes.lookup id = geo'.boxes.lookup id)

include same

/-- Only what is known of the objects counts. -/
theorem positions_congr (nodes : List Node) (spare : Box α) :
    geo.positions nodes spare = geo'.positions nodes spare := by
  simp only [Geometry.positions, boxOfNode?, parentBox?, same]

theorem unplaced_congr (nodes : List Node) : geo.unplaced nodes = geo'.unplaced nodes := by
  simp only [Geometry.unplaced, same]

end Congr

/-- There is one box for each node, and nodes that are not placed have the spare one. -/
structure Covers {α : Type} (g : Graph) (placed : List String) (spare : Box α)
    (boxes : Positions α) : Prop where
  ids : boxes.map Prod.fst = g.ids
  spare : ∀ n ∈ g.nodes, n.id ∉ placed → boxes.lookup n.id = some spare

theorem positions_covers (geo : Geometry α) (spare : Box α) (distinct : g.ids.Nodup) :
    Covers g (geo.placements.map Placement.id) spare (geo.positions g.nodes spare) where
  ids := positions_ids geo spare distinct
  spare n mem unplaced := by
    rw [lookup_positions distinct mem, boxOfNode?_unplaced unplaced, Option.getD_none]

end Lookup

section Answers

/-- What an answer tells, as it is kept. -/
def Sides.geometry {α : Type} (whole : Sides α) (placements : List (Placement α)) : Geometry α :=
  ⟨whole.left, whole.top, placements⟩

variable {α : Type} [Sub α] [Mul α] [Div α] [OfNat α 2] [OfNat α 72] {r : Numerals α}
  {fields fields' : List (String × Json)} {listed listed' : List Json} {whole : Sides α}
  {placements placements' : List (Placement α)} {g : Graph} {spare : Box α} {boxes : Positions α}

/-- An answer gives the nodes of a graph these boxes, by what it tells in some kind of number. -/
def Numerals.Gives (r : Numerals α) (fields : List (String × Json)) (g : Graph) (spare : Box α)
    (boxes : Positions α) : Prop :=
  ∃ listed whole placements, r.Tells fields listed whole placements ∧
    boxes = (whole.geometry placements).positions g.nodes spare

theorem gives_iff (told : r.Tells fields listed whole placements) :
    r.Gives fields g spare boxes ↔
      boxes = (whole.geometry placements).positions g.nodes spare := by
  constructor
  · rintro ⟨listed', whole', placements', told', rfl⟩
    obtain ⟨rfl, rfl⟩ := told.unique told'
    rfl
  · rintro rfl
    exact ⟨listed, whole, placements, told, rfl⟩

theorem lookup_boxes_perm (distinct : (placements.map Placement.id).Nodup)
    (perm : placements.Perm placements') (id : String) :
    (whole.geometry placements').boxes.lookup id = (whole.geometry placements).boxes.lookup id := by
  have keys : ((placements.map (whole.geometry placements).boxOf).map Prod.fst).Nodup := by
    rwa [map_boxOf_ids]
  exact (Keyed.lookup_assignAll_perm keys (perm.map _) id).symm

/-- The boxes do not depend on the order of the objects. -/
theorem gives_relisted (told : r.Tells fields listed whole placements)
    (distinct : (placements.map Placement.id).Nodup)
    (again : Relisted fields listed fields' listed') :
    r.Gives fields' g spare boxes ↔ r.Gives fields g spare boxes := by
  obtain ⟨placements', told', perm⟩ := told.relisted again
  rw [gives_iff told, gives_iff told', positions_congr (lookup_boxes_perm distinct perm)]

end Answers

section Double

variable {fields fields' : List (String × Json)} {listed listed' : List Json} {g : Graph}
  {o : Options} {whole : Sides Float} {placements : List (Placement Float)}

theorem positionsOf_of_told (told : Numerals.double.Tells fields listed whole placements)
    {spare : Box Float} (fits : o.spareBox = .ok spare) : positionsOf (.object fields) g o =
      .ok ((whole.geometry placements).positions g.nodes spare) := by
  simp only [positionsOf, Numerals.geometry_of_told told, fits, Sides.geometry]

/-- Where every node is placed, no spare box is needed. -/
theorem positionsOf_of_placed (told : Numerals.double.Tells fields listed whole placements)
    (all : ∀ id ∈ g.ids, id ∈ placements.map Placement.id) :
    ∃ spare, positionsOf (.object fields) g o =
      .ok ((whole.geometry placements).positions g.nodes spare) := by
  have placed : ((whole.geometry placements).unplaced g.nodes).isEmpty = true :=
    unplaced_isEmpty_iff.mpr fun id mem => List.mem_map.mp (all id mem)
  unfold Sides.geometry at placed
  cases fits : o.spareBox with
  | ok spare => exact ⟨spare, positionsOf_of_told told fits⟩
  | error ps =>
    refine ⟨⟨0, 0, 0, 0⟩, ?_⟩
    simp only [positionsOf, Numerals.geometry_of_told told, fits, placed, if_true, Sides.geometry]

theorem positionsOf_relisted (told : Numerals.double.Tells fields listed whole placements)
    (distinct : (placements.map Placement.id).Nodup)
    (again : Relisted fields listed fields' listed') :
    positionsOf (.object fields') g o = positionsOf (.object fields) g o := by
  obtain ⟨placements', told', perm⟩ := told.relisted again
  have same (id : String) : (whole.geometry placements').boxes.lookup id =
      (whole.geometry placements).boxes.lookup id := lookup_boxes_perm distinct perm id
  unfold Sides.geometry at same
  simp only [positionsOf, Numerals.geometry_of_told told, Numerals.geometry_of_told told',
    positions_congr same, unplaced_congr same]

theorem spareBox_eq_ok {width height : Float} (wide : Decimal.ofInt? o.defaultWidth = some width)
    (high : Decimal.ofInt? o.defaultHeight = some height) :
    o.spareBox = .ok ⟨0.0, 0.0, width, height⟩ := by
  simp only [Options.spareBox, ofJson_size, Form.float, wide, high, Form.under, Form.also]

end Double

section Exact

/-- The default box, without rounding. -/
def Options.exactSpare (o : Options) : Box ℚ := ⟨0, 0, o.defaultWidth, o.defaultHeight⟩

/-- The sides of an object. A node is given by its middle, and its size in inches. -/
def Placement.sides : Placement ℚ → Sides ℚ
  | .cluster _ left bottom right top => ⟨left, bottom, right, top⟩
  | .node _ x y width height =>
    ⟨x - 72 * width / 2, y - 72 * height / 2, x + 72 * width / 2, y + 72 * height / 2⟩

/-- The box of a rectangle inside the whole, by its upper left corner. -/
def Sides.boxIn (whole sides : Sides ℚ) : Box ℚ :=
  ⟨sides.left - whole.left, whole.top - sides.top, sides.right - sides.left,
    sides.top - sides.bottom⟩

/-- A box that is seen from an outer one, seen from where the outer one is seen. -/
def Box.outOf (outer inner : Box ℚ) : Box ℚ :=
  { inner with x := outer.x + inner.x, y := outer.y + inner.y }

theorem Box.outOf_within (outer inner : Box ℚ) : outer.outOf (outer.within inner) = inner := by
  simp [Box.outOf, Box.within]

variable {g : Graph} {whole : Sides ℚ} {placements : List (Placement ℚ)} {spare : Box ℚ}
  {boxes : Positions ℚ}

theorem boxOf_eq (p : Placement ℚ) :
    ((whole.geometry placements).boxOf p).2 = whole.boxIn p.sides := by
  cases p with
  | cluster => rfl
  | node id x y width height =>
    simp only [Geometry.boxOf, Sides.geometry, Sides.boxIn, Placement.sides, Box.mk.injEq]
    refine ⟨?_, ?_, ?_, ?_⟩ <;> ring

/-- Each placed node is where its object is: its box, seen from where the box of its parent is seen
if that is placed, is the box of the object. -/
structure Follows (g : Graph) (whole : Sides ℚ) (placements : List (Placement ℚ))
    (boxes : Positions ℚ) : Prop where
  inner : ∀ n ∈ g.nodes, ∀ p ∈ placements, p.id = n.id → ∀ q ∈ placements,
    n.parent = some q.id → ∃ box, boxes.lookup n.id = some box ∧
      (whole.boxIn q.sides).outOf box = whole.boxIn p.sides
  outer : ∀ n ∈ g.nodes, ∀ p ∈ placements, p.id = n.id →
    (∀ q ∈ placements, n.parent ≠ some q.id) → boxes.lookup n.id = some (whole.boxIn p.sides)

theorem nodup_of_subperm {xs ys : List String} (once : xs.Subperm ys) (distinct : ys.Nodup) :
    xs.Nodup := by
  obtain ⟨zs, perm, part⟩ := once
  exact perm.nodup (distinct.sublist part)

theorem positions_follows (distinct : g.ids.Nodup) (named : "" ∉ g.ids)
    (once : (placements.map Placement.id).Subperm g.ids) :
    Follows g whole placements ((whole.geometry placements).positions g.nodes spare) := by
  have apart := nodup_of_subperm once distinct
  constructor
  case inner =>
    intro n hn p hp own q hq parent
    have known : q.id ≠ "" := fun empty =>
      named (empty ▸ once.subset (List.mem_map_of_mem hq))
    rw [lookup_positions distinct hn, boxOfNode?_inner apart hp own hq parent known,
      Option.getD_some]
    exact ⟨_, rfl, by rw [boxOf_eq, boxOf_eq, Box.outOf_within]⟩
  case outer =>
    intro n hn p hp own free
    rw [lookup_positions distinct hn, boxOfNode?_outer apart hp own free, Option.getD_some,
      boxOf_eq]

/-- The size of a placed node is that of its object, wherever it is seen from. -/
theorem Follows.size (follows : Follows g whole placements boxes) {n : Node} (hn : n ∈ g.nodes)
    {p : Placement ℚ} (hp : p ∈ placements) (own : p.id = n.id) :
    ∃ box, boxes.lookup n.id = some box ∧ box.width = (whole.boxIn p.sides).width ∧
      box.height = (whole.boxIn p.sides).height := by
  by_cases inner : ∃ q ∈ placements, n.parent = some q.id
  case pos =>
    obtain ⟨q, hq, parent⟩ := inner
    obtain ⟨box, found, seen⟩ := follows.inner n hn p hp own q hq parent
    rw [← seen]
    exact ⟨box, found, rfl, rfl⟩
  case neg =>
    exact ⟨_, follows.outer n hn p hp own fun q hq parent => inner ⟨q, hq, parent⟩, rfl, rfl⟩

/-- A rectangle lies inside another one. -/
structure Sides.Inside (inner outer : Sides ℚ) : Prop where
  left : outer.left ≤ inner.left
  bottom : outer.bottom ≤ inner.bottom
  right : inner.right ≤ outer.right
  top : inner.top ≤ outer.top

/-- Each object lies inside the whole, and inside the object of its parent. -/
structure Nested (g : Graph) (whole : Sides ℚ) (placements : List (Placement ℚ)) : Prop where
  whole : ∀ p ∈ placements, p.sides.Inside whole
  parent : ∀ n ∈ g.nodes, ∀ p ∈ placements, p.id = n.id → ∀ q ∈ placements,
    n.parent = some q.id → p.sides.Inside q.sides

/-- A box fits into an outer one, from which it is seen. -/
structure Box.Fits (inner outer : Box ℚ) : Prop where
  left : 0 ≤ inner.x
  top : 0 ≤ inner.y
  right : inner.x + inner.width ≤ outer.width
  bottom : inner.y + inner.height ≤ outer.height

theorem boxIn_nonneg {sides : Sides ℚ} (inside : sides.Inside whole) :
    0 ≤ (whole.boxIn sides).x ∧ 0 ≤ (whole.boxIn sides).y :=
  ⟨sub_nonneg.mpr inside.left, sub_nonneg.mpr inside.top⟩

/-- Boxes fit when their rectangles do; where the whole is makes no difference. -/
theorem fits_of_inside {inner outer : Sides ℚ} (inside : inner.Inside outer) {box seen : Box ℚ}
    (there : (whole.boxIn outer).outOf box = whole.boxIn inner)
    (wide : seen.width = (whole.boxIn outer).width)
    (high : seen.height = (whole.boxIn outer).height) : box.Fits seen := by
  obtain ⟨x, y, width, height⟩ := box
  simp only [Box.outOf, Sides.boxIn, Box.mk.injEq] at there wide high
  obtain ⟨x_eq, y_eq, rfl, rfl⟩ := there
  constructor <;> dsimp only
  case left => linarith [inside.left]
  case top => linarith [inside.top]
  case right => linarith [inside.right]
  case bottom => linarith [inside.bottom]

end Exact

section Results

variable {fields : List (String × Json)} {listed : List Json} {g : Graph} {whole : Sides ℚ}
  {placements : List (Placement ℚ)}

/-- An answer that is at most once about each node gives each node the box of its own object, in
whatever order the objects come, and the spare box where it has no object. In doubles there is one
box for each node, too, as long as the spare box has a size in doubles or is not needed. -/
theorem boxes_of_objects (distinct : g.ids.Nodup) (named : "" ∉ g.ids)
    (told : Numerals.exact.Tells fields listed whole placements)
    (once : (placements.map Placement.id).Subperm g.ids) (o : Options) :
    (∃ boxes, Numerals.exact.Gives fields g o.exactSpare boxes ∧
      Covers g (placements.map Placement.id) o.exactSpare boxes ∧
      Follows g whole placements boxes ∧
      ∀ fields' listed', Relisted fields listed fields' listed' → ∀ boxes',
        Numerals.exact.Gives fields' g o.exactSpare boxes' ↔ boxes' = boxes) ∧
    (∀ fields' listed', Relisted fields listed fields' listed' →
      positionsOf (.object fields') g o = positionsOf (.object fields) g o) ∧
    (∀ width height, Decimal.ofInt? o.defaultWidth = some width →
      Decimal.ofInt? o.defaultHeight = some height →
      ∃ boxes, positionsOf (.object fields) g o = .ok boxes ∧
        Numerals.double.Gives fields g ⟨0.0, 0.0, width, height⟩ boxes ∧
        Covers g (placements.map Placement.id) ⟨0.0, 0.0, width, height⟩ boxes) ∧
    ((∀ id ∈ g.ids, id ∈ placements.map Placement.id) →
      ∃ boxes, positionsOf (.object fields) g o = .ok boxes ∧ boxes.map Prod.fst = g.ids) := by
  have apart := nodup_of_subperm once distinct
  obtain ⟨whole', rounded, told', same⟩ := told.double
  have covers (spare : Box Float) : Covers g (placements.map Placement.id) spare
      ((whole'.geometry rounded).positions g.nodes spare) :=
    same ▸ positions_covers (whole'.geometry rounded) spare distinct
  refine ⟨⟨_, (gives_iff told).mpr rfl, positions_covers (whole.geometry _) _ distinct,
    positions_follows distinct named once, fun fields' listed' again boxes' => ?_⟩,
    fun fields' listed' again => ?_, fun width height wide high => ?_, fun all => ?_⟩
  · rw [gives_relisted told apart again, gives_iff told]
  · exact positionsOf_relisted told' (same ▸ apart) again
  · exact ⟨_, positionsOf_of_told told' (spareBox_eq_ok wide high), (gives_iff told').mpr rfl,
      covers _⟩
  · obtain ⟨spare, found⟩ := positionsOf_of_placed (o := o) told' (same ▸ all)
    exact ⟨_, found, (covers spare).ids⟩

/-- A table whose id starts like the name of a cluster, in a group. -/
def likeCluster : Graph :=
  ⟨[⟨"cluster_t", .table ⟨"orders", none, [], 0⟩, some "t"⟩, ⟨"t", .group ⟨"t", 0⟩, none⟩], []⟩

/-- `likeCluster` with one more table. -/
def likeClusterMore : Graph :=
  ⟨likeCluster.nodes ++ [⟨"more", .table ⟨"items", none, [], 0⟩, none⟩], []⟩

/-- The object of the group of `likeCluster`. -/
def likeClusterGroup : Json :=
  .object [("name", .string "cluster_t"), ("bb", .string "0,0,200.5,100")]

/-- The object of the table of `likeCluster`. -/
def likeClusterTable : Json :=
  .object [("name", .string "cluster_t"), ("pos", .string "100,50"), ("width", .string "2"),
    ("height", .string "0.5")]

/-- An answer about `likeCluster` whose whole is not at the origin. -/
def likeClusterAnswer : List (String × Json) :=
  [("bb", .string "-10,-20,290,130"), ("objects", .array [likeClusterGroup, likeClusterTable])]

theorem likeClusterAnswer_tells : Numerals.exact.Tells likeClusterAnswer
    [likeClusterGroup, likeClusterTable] ⟨-10, -20, 290, 130⟩
    [.cluster "t" 0 0 (401 / 2) 100, .node "cluster_t" 100 50 2 (1 / 2)] := by
  have whole : Numerals.exact.Lists (.string "-10,-20,290,130") [-10, -20, 290, 130] :=
    Numerals.lists_string_iff.mpr (by decide +kernel)
  have corners : Numerals.exact.Lists (.string "0,0,200.5,100") [0, 0, 401 / 2, 100] :=
    Numerals.lists_string_iff.mpr (by decide +kernel)
  have middle : Numerals.exact.Lists (.string "100,50") [100, 50] :=
    Numerals.lists_string_iff.mpr (by decide +kernel)
  refine ⟨whole, .array _, .cons (.cluster ⟨rfl, rfl⟩ corners) (.cons ?_ .nil)⟩
  exact .node rfl rfl rfl middle (by decide +kernel) (by decide +kernel)

theorem boxes_of_objects_likeCluster :
    likeClusterMore.ids.Nodup ∧ "" ∉ likeClusterMore.ids ∧
      ["t", "cluster_t"].Subperm likeClusterMore.ids ∧
      ∃ boxes, Numerals.exact.Gives likeClusterAnswer likeClusterMore ⟨0, 0, 220, 60⟩ boxes ∧
        boxes.lookup "cluster_t" = some ⟨28, 32, 144, 36⟩ ∧
        boxes.lookup "more" = some ⟨0, 0, 220, 60⟩ := by
  have distinct : likeClusterMore.ids.Nodup := by decide
  have named : "" ∉ likeClusterMore.ids := by decide
  have once : ["t", "cluster_t"].Subperm likeClusterMore.ids := by decide
  obtain ⟨⟨boxes, gives, covers, follows, _⟩, _⟩ :=
    boxes_of_objects distinct named likeClusterAnswer_tells once {}
  have more : boxes.lookup "more" = some ⟨0, 0, 220, 60⟩ :=
    covers.spare ⟨"more", .table ⟨"items", none, [], 0⟩, none⟩ (by decide) (by decide)
  refine ⟨distinct, named, once, boxes, gives, ?_, more⟩
  obtain ⟨⟨x, y, width, height⟩, found, seen⟩ := follows.inner _ List.mem_cons_self _
    (List.mem_cons_of_mem _ List.mem_cons_self) rfl _ List.mem_cons_self rfl
  simp only [Sides.boxIn, Placement.sides, Box.outOf, Box.mk.injEq] at seen
  obtain ⟨x_eq, y_eq, rfl, rfl⟩ := seen
  rw [found, Option.some.injEq, Box.mk.injEq]
  exact ⟨by linarith, by linarith, by norm_num, by norm_num⟩

/-- Where an answer is about each node once, and its objects lie inside the whole and inside the
objects of their parents, nodes without a parent have no negative corner, and all others fit into
the box of their parent. -/
theorem boxes_nested (sound : g.violations = []) (named : "" ∉ g.ids)
    (told : Numerals.exact.Tells fields listed whole placements)
    (once : (placements.map Placement.id).Perm g.ids) (nested : Nested g whole placements)
    (o : Options) :
    ∃ boxes, Numerals.exact.Gives fields g o.exactSpare boxes ∧
      ∀ n ∈ g.nodes, ∃ box, boxes.lookup n.id = some box ∧
        (n.parent = none → 0 ≤ box.x ∧ 0 ≤ box.y) ∧
        ∀ group, n.parent = some group → ∃ outer, boxes.lookup group = some outer ∧
          box.Fits outer := by
  have formed := Graph.violations_eq_nil_iff.mp sound
  refine ⟨_, (gives_iff told).mpr rfl, fun n hn => ?_⟩
  have follows : Follows g whole placements
      ((whole.geometry placements).positions g.nodes o.exactSpare) :=
    positions_follows formed.distinct named once.subperm
  have placed (m : Node) (hm : m ∈ g.nodes) : ∃ q ∈ placements, q.id = m.id :=
    List.mem_map.mp (once.mem_iff.mpr (List.mem_map_of_mem hm))
  obtain ⟨p, hp, own⟩ := placed n hn
  cases parent : n.parent with
  | none =>
    refine ⟨_, follows.outer n hn p hp own (by simp [parent]), fun _ => ?_, nofun⟩
    exact boxIn_nonneg (nested.whole p hp)
  | some group =>
    obtain ⟨m, hm, -, rfl⟩ := Graph.mem_groupIds.mp (formed.grouped n hn group parent)
    obtain ⟨q, hq, same⟩ := placed m hm
    rw [← same] at parent
    obtain ⟨box, found, seen⟩ := follows.inner n hn p hp own q hq parent
    obtain ⟨outer, there, wide, high⟩ := follows.size hm hq same
    refine ⟨box, found, nofun, ?_⟩
    rintro _ ⟨⟩
    exact ⟨outer, there, fits_of_inside (nested.parent n hn p hp own q hq parent) seen wide high⟩

theorem boxes_nested_likeCluster :
    likeCluster.violations = [] ∧ "" ∉ likeCluster.ids ∧
      ["t", "cluster_t"].Perm likeCluster.ids ∧
      ∃ boxes box outer,
        Numerals.exact.Gives likeClusterAnswer likeCluster ⟨0, 0, 220, 60⟩ boxes ∧
        boxes.lookup "cluster_t" = some box ∧ boxes.lookup "t" = some outer ∧ box.Fits outer := by
  have sound : likeCluster.violations = [] := by decide
  have named : "" ∉ likeCluster.ids := by decide
  have once : ["t", "cluster_t"].Perm likeCluster.ids := by decide
  have nested : Nested likeCluster ⟨-10, -20, 290, 130⟩
      [.cluster "t" 0 0 (401 / 2) 100, .node "cluster_t" 100 50 2 (1 / 2)] := by
    constructor
    case whole =>
      simp only [List.forall_mem_cons]
      refine ⟨?_, ?_, nofun⟩ <;> constructor <;> norm_num [Placement.sides]
    case parent =>
      intro n hn p hp own q hq parent
      simp only [likeCluster, List.mem_cons, List.not_mem_nil, or_false] at hn hp hq
      -- only the table has a parent, which is the group
      rcases hn with rfl | rfl
      · rcases hp with rfl | rfl
        · simp [Placement.id] at own
        · rcases hq with rfl | rfl
          · constructor <;> norm_num [Placement.sides]
          · simp [Placement.id] at parent
      · cases parent
  obtain ⟨boxes, gives, boxed⟩ := boxes_nested sound named likeClusterAnswer_tells once nested {}
  obtain ⟨box, found, _, inner⟩ := boxed _ List.mem_cons_self
  obtain ⟨outer, there, fits⟩ := inner "t" rfl
  exact ⟨sound, named, once, boxes, box, outer, gives, found, there, fits⟩

end Results

end QueryFlow.Layout
