import QueryFlow.Proofs.Builder.LeftDeep
import QueryFlow.Proofs.Query.Joining

/-!
Joins by shared columns in the graph. Where a SELECT joins a plain table by shared columns, its part
of the graph has a join node for it, whose condition refers to both sides of each column, and the
two edges into that node carry each column twice. This is so in every state of a builder, and no
later call changes it. Of the nodes that the edges come from it is not told what they are.
-/

namespace QueryFlow

open Sql

namespace Builder

variable {ctx : BuildContext} {parts : List Part} {p : Part} {clauses : List Expr}

/-- The link and the join node that a part has for a join by shared columns. -/
structure Part.Shares (d : Dialect) (p : Part) (j : Selection.SharedJoin clauses) (l : Link)
    (n : Node) : Prop where
  /-- The links in front are those of the plain tables in front. -/
  place : p.links[j.place]? = some l
  joined : l.join = some n
  /-- The condition refers to each shared column on the left and then on the right. -/
  condition : ∃ e, l.entry = { j.table with join := some ⟨.ofKind j.kind, some e⟩ } ∧
    e.references = j.references ∧ n.data = .join ⟨.ofKind j.kind, e.clauseText d⟩

/-- The part of a SELECT has a link and a join node for each join by shared columns. -/
theorem Part.Fits.shares {meaning : String → Option String} (h : p.Fits ctx meaning)
    (body : p.call.body = .ofClauses clauses) (j : Selection.SharedJoin clauses) :
    ∃ l n left, p.Shares ctx.dialect j l n ∧ chainEnd none (p.links.take j.place) = some left := by
  obtain ⟨front, back, e, entries, place, others, references⟩ := j.entries_eq
  -- Each entry has one link, so the links are split where the entries are.
  have all := h.entries.trans ((congrArg Selection.entries body).trans entries)
  obtain ⟨links, behind, hl, rfl, more⟩ := List.map_eq_append_iff.mp all
  obtain ⟨l, rest, rfl, entry, rfl⟩ := List.map_eq_cons_iff.mp more
  rw [List.length_map] at place
  rw [ne_eq, List.map_eq_nil_iff] at others
  have left : chainEnd none links = some (links.getLast others).last := by
    rw [chainEnd_eq, List.getLast?_map, List.getLast?_eq_getLast_of_ne_nil others]
    rfl
  have linked := h.links
  rw [hl] at linked
  cases linked.split.2 with
  | cons _ join _ =>
    simp only [Link.Joins, left, entry] at join
    obtain ⟨n, hn, _, data⟩ := join
    refine ⟨l, n, (links.getLast others).last, ⟨?_, hn, e, entry, references, data⟩, ?_⟩
    · simp [hl, ← place]
    · rw [hl, ← place, List.take_left, left]

namespace Chronicle

/-- Just two edges lead into the node of a join by shared columns, and both carry each of them
twice. -/
theorem incoming_shared (h : Chronicle ctx parts) {before after : List Part}
    (hs : parts = before ++ p :: after) {j : Selection.SharedJoin clauses} {l : Link} {n : Node}
    {left : String} (shares : p.Shares ctx.dialect j l n)
    (behind : chainEnd none (p.links.take j.place) = some left) :
    ((run ctx (parts.map (·.call))).graph.incoming n.id).map Edge.wire =
      [⟨left, n.id, some j.columns⟩, ⟨l.input.id, n.id, some j.columns⟩] := by
  obtain ⟨inside, rfl⟩ := List.getElem?_eq_some_iff.mp shares.place
  have split := (List.take_append_drop j.place p.links).symm
  rw [List.drop_eq_getElem_cons inside] at split
  obtain ⟨e, entry, references, _⟩ := shares.condition
  have columns : p.links[j.place].entry.join.map (·.columns) = some j.columns := by
    simp [entry, JoinMarker.columns, references, j.columns_references]
  rw [h.incoming_join hs split shares.joined behind, columns]

end Chronicle

/-- In every state of a builder, a SELECT that joins a plain table by shared columns behind others
adds a join node whose condition refers to each shared column in the last plain table in front and
then in its own, in the order of the list. Whatever calls follow, just two edges lead into the node,
from the link in front and from what the table reads, and both carry each shared column twice. -/
theorem take_shares (ctx : BuildContext) (calls : List Call) (call : Call)
    (body : call.body = .ofClauses clauses) (j : Selection.SharedJoin clauses) :
    ∃ p l n left, p.call = call ∧
      Gains ctx (run ctx calls) (take ctx (run ctx calls) call) p ∧ p.Shares ctx.dialect j l n ∧
      chainEnd none (p.links.take j.place) = some left ∧
      ∀ more, ((run ctx (calls ++ call :: more)).graph.incoming n.id).map Edge.wire =
        [⟨left, n.id, some j.columns⟩, ⟨l.input.id, n.id, some j.columns⟩] := by
  obtain ⟨parts, rfl, h⟩ := run_chronicle ctx calls
  obtain ⟨p, rfl, gains⟩ := take_gains ctx (run ctx (parts.map (·.call))) call
  obtain ⟨l, n, left, shares, behind⟩ := gains.fits.shares body j
  refine ⟨p, l, n, left, rfl, gains, shares, behind, fun more => ?_⟩
  obtain ⟨after, rfl, whole⟩ := (h.concat gains).goOn more
  have edges := whole.incoming_shared (List.append_assoc parts [p] after) shares behind
  simpa using edges

/-- The clauses of
`SELECT i FROM t AS l CROSS JOIN (SELECT 1) AS q LEFT JOIN s.u AS r USING (i, j, k), x`. -/
def threeShared : List Expr :=
  let known (name : String) : Option ItemAlias := some { name := some (.bare name) }
  let one : Expr := .of (.select false) [.of .items [.of (.number "1")]]
  [.of .items [.of (.column [.bare "i"])],
    .of .from [.of (.table [.bare "t"] (known "l"))],
    .of (.join { kind := some "CROSS" }) [.of (.subquery (known "q")) [one]],
    .of (.join { side := some .left, shared := [.bare "i", .bare "j", .bare "k"] })
      [.of (.table [.bare "s", .bare "u"] (known "r"))],
    .of (.join {}) [.of (.table [.bare "x"] none)]]

def sharedThree : Selection.SharedJoin threeShared where
  before := threeShared.take 3
  kind := { side := some .left, shared := [.bare "i", .bare "j", .bare "k"] }
  notes := []
  item := .of (.table [.bare "s", .bare "u"] (some { name := some (.bare "r") }))
  after := threeShared.drop 4
  split := rfl
  shared := by decide
  table := ⟨"u", some "r", none⟩
  plain := rfl
  previous := ⟨"t", some "l", none⟩
  front := rfl

/-- The subquery between the tables is passed over. -/
theorem take_shares_three :
    sharedThree.references =
      [⟨some "l", "i"⟩, ⟨some "r", "i"⟩, ⟨some "l", "j"⟩, ⟨some "r", "j"⟩, ⟨some "l", "k"⟩,
        ⟨some "r", "k"⟩] ∧
    sharedThree.columns = ["i", "i", "j", "j", "k", "k"] ∧
    (Call.main (.ofClauses threeShared)).body = .ofClauses threeShared ∧
    ∃ p l n left, p.call = .main (.ofClauses threeShared) ∧
      Gains {} (run {} [usersAsT])
        (take {} (run {} [usersAsT]) (.main (.ofClauses threeShared))) p ∧
      p.Shares .postgres sharedThree l n ∧
      chainEnd none (p.links.take sharedThree.place) = some left ∧
      ∀ more, ((run {} ([usersAsT] ++ .main (.ofClauses threeShared) :: more)).graph.incoming
        n.id).map Edge.wire = [⟨left, n.id, some ["i", "i", "j", "j", "k", "k"]⟩,
          ⟨l.input.id, n.id, some ["i", "i", "j", "j", "k", "k"]⟩] :=
  ⟨by decide, by decide, rfl,
    take_shares {} [usersAsT] (.main (.ofClauses threeShared)) rfl sharedThree⟩

/-- What stands behind another comma is not joined. -/
example : (run {} [.main (.ofClauses threeShared)]).graph.edges.map
      (fun e => (e.source, e.target, e.columns)) =
    [("table_0", "join_2", some ["i", "i", "j", "j", "k", "k"]),
      ("table_1", "join_2", some ["i", "i", "j", "j", "k", "k"]),
      ("table_3", "output_4", some ["i"])] := by
  decide +kernel

end Builder

end QueryFlow
