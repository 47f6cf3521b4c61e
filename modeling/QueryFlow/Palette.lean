import QueryFlow.Json.Basic

/-!
The colors of tables and named queries. There are eight of them, and indexes go round.
-/

namespace QueryFlow

structure Color where
  /-- Background of the head of a node. -/
  header : String
  /-- Background of the row of a column. -/
  row : String
  /-- Border of the row of a column. -/
  border : String
  deriving Repr, DecidableEq

namespace Color

def palette : List Color :=
  [⟨"#dbeafe", "#eff6ff", "#3b82f6"⟩, ⟨"#ffe4e6", "#fff1f2", "#f43f5e"⟩,
   ⟨"#fef3c7", "#fffbeb", "#f59e0b"⟩, ⟨"#ccfbf1", "#f0fdfa", "#14b8a6"⟩,
   ⟨"#f3e8ff", "#faf5ff", "#a855f7"⟩, ⟨"#ffedd5", "#fff7ed", "#f97316"⟩,
   ⟨"#e0e7ff", "#eef2ff", "#6366f1"⟩, ⟨"#fce7f3", "#fdf2f8", "#ec4899"⟩]

def place (index : Int) : Nat := (index % palette.length).toNat

theorem place_lt (index : Int) : place index < palette.length := by
  have h : palette.length = 8 := rfl
  simp only [place, h]
  omega

def ofIndex (index : Int) : Color := palette.get ⟨place index, place_lt index⟩

def toJson (c : Color) : Json :=
  .object [("header", .string c.header), ("row", .string c.row), ("border", .string c.border)]

end Color

end QueryFlow
