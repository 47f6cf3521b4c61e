import QueryFlow.Json.Form
import QueryFlow.Layout.Box
import QueryFlow.Text.Parts

/-!
The geometry in the answer of the solver. Places are texts of numbers parted by commas; sizes are
numbers or texts of numbers. Objects without a place are passed over.
-/

namespace QueryFlow.Layout

inductive GeometryFault where
  /-- A text is no number, or there are too few or too many numbers in it. -/
  | numbers
  /-- Something that should have fields, or be a text, is something else. -/
  | shape
  /-- Something that should be a list, a number or a name is something else. -/
  | kind
  /-- A number is beyond all doubles. -/
  | range
  deriving Repr, DecidableEq

namespace Answer

def numbers? (text : String) : Option (List Float) := (Text.parts ',' text).mapM Decimal.float?

def numbers : Json → Except GeometryFault (List Float)
  | .string s =>
    match numbers? s with
    | some xs => .ok xs
    | none => .error .numbers
  | _ => .error .shape

def size : Option Json → Except GeometryFault Float
  | none => .ok 0.0
  | some (.float x) => .ok x
  | some (.bool b) => .ok (if b then 1.0 else 0.0)
  | some (.int n) =>
    match Decimal.ofInt? n with
    | some x => .ok x
    | none => .error .range
  | some (.string s) =>
    match Decimal.float? s with
    | some x => .ok x
    | none => .error .numbers
  | some _ => .error .kind

/-- The objects of an answer. Where an object with fields stands, or characters of a text, none of
them has fields. -/
def objects : Option Json → Except GeometryFault (List Json)
  | none => .ok []
  | some (.array js) => .ok js
  | some (.object []) => .ok []
  | some (.object _) => .error .shape
  | some (.string s) => if s.isEmpty then .ok [] else .error .shape
  | some _ => .error .kind

def behind? (start text : String) : Option String :=
  if start.toList.isPrefixOf text.toList then some (String.ofList (text.toList.drop start.length))
  else none

/-- The group whose cluster an object is, by its name and its having a box. -/
def clusterOf? (name : Json) (box : Option Json) : Except GeometryFault (Option String) :=
  match box, name with
  | none, _ => .ok none
  | some _, .string s => .ok (behind? clusterStart s)
  | some _, _ => .error .shape

def cluster (group : String) (box : Json) : Except GeometryFault (Placement Float) :=
  match numbers box with
  | .ok [left, bottom, right, top] => .ok (.cluster group left bottom right top)
  | .ok _ => .error .numbers
  | .error f => .error f

/-- A node with its place. A name that is no text belongs to no node, and some of these are not even
names. -/
def node (name : Json) (place : Json) (fields : List (String × Json)) :
    Except GeometryFault (Option (Placement Float)) := do
  match ← numbers place with
  | x :: y :: _ =>
    let width ← size (fields.lookup "width")
    let height ← size (fields.lookup "height")
    match name with
    | .string id => return some (.node id x y width height)
    | .array _ | .object _ => throw .kind
    | _ => return none
  | _ => throw .numbers

def placement : Json → Except GeometryFault (Option (Placement Float))
  | .object fields => do
    let name := (fields.lookup "name").getD (.string "")
    let box := fields.lookup "bb"
    match ← clusterOf? name box, box with
    | some group, some box => return some (← cluster group box)
    | _, _ =>
      match fields.lookup "pos" with
      | some place => node name place fields
      | none => return none
  | _ => .error .shape

/-- The box of the whole, when the answer does not say it. -/
def noBox : Json := .string "0,0,0,0"

def geometry : Json → Except GeometryFault (Geometry Float)
  | .object fields => do
    match ← numbers ((fields.lookup "bb").getD noBox) with
    | [left, _, _, top] =>
      let found ← (← objects (fields.lookup "objects")).mapM placement
      return ⟨left, top, found.filterMap id⟩
    | _ => throw .numbers
  | _ => .error .shape

end Answer

def Box.toJson (b : Box Float) : Json :=
  .object [("x", .float b.x), ("y", .float b.y), ("width", .float b.width),
    ("height", .float b.height)]

def Box.ofJson (j : Json) : Form.Checked (Box Float) := do
  let fs ← Form.fieldsOf .modelType j
  ((((Form.withDefault (.plain "x") Form.float 0.0 fs).map Box.mk
    |> (Form.also · (Form.withDefault (.plain "y") Form.float 0.0 fs)))
    |> (Form.also · (Form.withDefault (.plain "width") Form.float 0.0 fs)))
    |> (Form.also · (Form.withDefault (.plain "height") Form.float 0.0 fs)))

end QueryFlow.Layout
