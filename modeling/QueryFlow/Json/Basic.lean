import QueryFlow.Keyed

/-!
JSON values. Whole numbers and decimal numbers are kept apart, and an object keeps its keys in the
order of their first appearance; a key that is given twice has its last value.
-/

namespace QueryFlow

inductive Json where
  | null
  | bool (b : Bool)
  | int (n : Int)
  | float (x : Float)
  | string (s : String)
  | array (items : List Json)
  | object (fields : List (String × Json))
  deriving Inhabited

namespace Json

/-- The value of a key of an object; none for other values. -/
def field? (key : String) : Json → Option Json
  | .object fields => fields.lookup key
  | _ => none

/-- The value of a key, where null counts as absent. -/
def present? (key : String) (j : Json) : Option Json :=
  match j.field? key with
  | some .null => none
  | v => v

def asString? : Json → Option String
  | .string s => some s
  | _ => none

def asArray? : Json → Option (List Json)
  | .array xs => some xs
  | _ => none

def asObject? : Json → Option (List (String × Json))
  | .object fs => some fs
  | _ => none

def ofPresent (fields : List (String × Option Json)) : Json :=
  .object (fields.filterMap fun (k, v) => v.map fun v => (k, v))

/-- A string, or null for none. -/
def ofString? : Option String → Json
  | some s => .string s
  | none => .null

def ofStrings (xs : List String) : Json := .array (xs.map .string)

end Json

end QueryFlow
