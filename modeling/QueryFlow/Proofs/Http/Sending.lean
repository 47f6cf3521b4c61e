import QueryFlow.Http

/-!
What can be sent. A value can be sent when all its numbers are finite and, for a body with half of a
character, when no text in it holds that half. The only numbers of a drawing that need not be whole
are in its boxes, so a drawing without positions can always be sent, but for such a half.
-/

namespace QueryFlow.Http

variable {α : Type}

@[simp] theorem isFinite_bool (b : Bool) : isFinite (.bool b) = true := rfl

/-- A field that has a value has a finite one. -/
def PresentFinite (v : Option Json) : Prop := ∀ j, v = some j → isFinite j = true

@[simp] theorem presentFinite_some {j : Json} : PresentFinite (some j) ↔ isFinite j = true := by
  simp [PresentFinite]

end QueryFlow.Http
