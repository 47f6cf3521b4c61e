import QueryFlow.Settings

/-!
What a layout can be told besides the graph: distances, the box of nodes that the solver does not
place, and the engine of the solver. All lengths are pixels.
-/

namespace QueryFlow.Layout

open Form

structure Options where
  nodeSpacing : Int := 40
  layerSpacing : Int := 80
  /-- The space inside a group around its nodes. -/
  groupPadding : Int := 30
  defaultWidth : Int := 220
  defaultHeight : Int := 60
  engine : String := "dot"
  deriving Repr, DecidableEq

namespace Options

def ofSettings (s : Settings) : Options where
  nodeSpacing := s.nodeSpacing
  layerSpacing := s.layerSpacing
  groupPadding := s.groupPadding
  defaultWidth := s.nodeWidth
  defaultHeight := s.nodeHeight

def toJson (o : Options) : Json :=
  .object
    [("node_spacing", .int o.nodeSpacing), ("layer_spacing", .int o.layerSpacing),
     ("group_padding", .int o.groupPadding), ("default_width", .int o.defaultWidth),
     ("default_height", .int o.defaultHeight), ("engine", .string o.engine)]

def ofJson (j : Json) : Checked Options := do
  let fs ← fieldsOf .modelType j
  ((((((withDefault (.plain "node_spacing") int 40 fs).map Options.mk
    |> (also · (withDefault (.plain "layer_spacing") int 80 fs)))
    |> (also · (withDefault (.plain "group_padding") int 30 fs)))
    |> (also · (withDefault (.plain "default_width") int 220 fs)))
    |> (also · (withDefault (.plain "default_height") int 60 fs)))
    |> (also · (withDefault (.plain "engine") string "dot" fs)))

end Options

end QueryFlow.Layout
