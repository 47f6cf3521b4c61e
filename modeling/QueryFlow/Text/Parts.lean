/-!
Texts cut into parts at a mark.
-/

namespace QueryFlow.Text

/-- What stands between the marks of a text. A text without marks is one part, also when it is
empty. -/
def parts (mark : Char) (s : String) : List String := (s.toList.splitOn mark).map String.ofList

end QueryFlow.Text
