import QueryFlow.Proofs.Builder.Sources
import QueryFlow.Proofs.Dot.Values
import QueryFlow.Proofs.Layout.Depiction

/-!
The labels of clusters in the text for the solver. A label should say the name of its named query
when it is read by the rules of the language, from the place in the text where it stands. The main
statement says that there is one label for each named query, in their order, and that all of them
are read back exactly when every name survives as a value. How a reader finds the place is not
looked at.
-/

namespace QueryFlow

namespace Dot

def block (lines : List String) : String := String.join (lines.map (· ++ "\n"))

theorem block_append (lines more : List String) :
    block (lines ++ more) = block lines ++ block more := by
  rw [block, List.map_append, String.join_append, block, block]

theorem block_cons (line : String) (lines : List String) :
    block (line :: lines) = line ++ "\n" ++ block lines := by
  rw [block, List.map_cons, String.join_cons, block]

namespace Document

variable {d : Document} {before behind : List Part} {c : Cluster} {pairs : Bool} {name : String}

/-- The lines of a document in front of the attributes of a cluster, with the parts in front of the
cluster. -/
def linesBefore (d : Document) (before : List Part) (c : Cluster) : List String :=
  ("digraph " ++ quote d.name ++ " \x7b") ::
    ({ d with parts := before }.inner ++ ["subgraph " ++ quote c.name ++ " \x7b"]).map ("\t" ++ ·)

/-- The text of a document as far as the label of a cluster. -/
def upToLabel (d : Document) (before : List Part) (c : Cluster) : String :=
  block (d.linesBefore before c) ++ "\t\tlabel="

/-- The label of a cluster is read as a name. Behind it is the blank in front of the next
attribute. -/
def LabelReads (pairs : Bool) (d : Document) (before : List Part) (c : Cluster) (name : String) :
    Prop :=
  ∃ source rest, d.text = d.upToLabel before c ++ source ∧
    readText pairs source.toList = some (name.toList, ' ' :: rest)

/-- The labels of the clusters among the parts behind others are read as these names, in order. -/
inductive LabelsRead (pairs : Bool) (d : Document) : List Part → List Part → List String → Prop
  | done (before : List Part) : LabelsRead pairs d before [] []
  | item {before rest : List Part} {names : List String} (i : Item)
      (more : LabelsRead pairs d (before ++ [.item i]) rest names) :
      LabelsRead pairs d before (.item i :: rest) names
  | cluster {before rest : List Part} {names : List String} {c : Cluster} {name : String}
      (label : d.LabelReads pairs before c name)
      (more : LabelsRead pairs d (before ++ [.cluster c]) rest names) :
      LabelsRead pairs d before (.cluster c :: rest) (name :: names)

/-- The cluster has a label, and more attributes behind it. -/
def HasLabel (c : Cluster) (label : String) : Prop :=
  ∃ a as, c.attributes = ⟨"label", label⟩ :: a :: as

/-- The lines of a document around the attributes of a cluster. -/
theorem text_eq_block (split : d.parts = before ++ .cluster c :: behind) :
    ∃ more, d.text = block (d.linesBefore before c ++
      ("\t" ++ ("\t" ++ attributesText c.attributes)) :: more) := by
  refine ⟨((c.items.map fun i => "\t" ++ i.text) ++ ["\x7d"] ++ behind.flatMap Part.lines).map
    ("\t" ++ ·) ++ ["\x7d"], congrArg block ?_⟩
  simp [linesBefore, inner, split, Part.lines]

theorem attributesText_label {label : String} {a : Attribute} {as : List Attribute} :
    attributesText (⟨"label", label⟩ :: a :: as) =
      "label=" ++ quote label ++ " " ++ attributesText (a :: as) := by
  have name : quote "label" ++ "=" = "label=" := by decide +kernel
  rw [attributesText, List.map_cons, List.map_cons, String.intercalate_cons_cons, Attribute.text,
    name]
  rfl

/-- A label stands where the text in front of it ends, and behind it is a blank. -/
theorem text_eq_upToLabel {label : String} (split : d.parts = before ++ .cluster c :: behind)
    (has : HasLabel c label) :
    ∃ tail, d.text = d.upToLabel before c ++ (quote label ++ (" " ++ tail)) := by
  obtain ⟨a, as, attributes⟩ := has
  obtain ⟨more, text⟩ := text_eq_block split
  have tabs : "\t\tlabel=" = "\t" ++ ("\t" ++ "label=") := rfl
  rw [text, attributes, attributesText_label, block_append, block_cons, upToLabel, tabs]
  simp only [String.append_assoc]
  exact ⟨attributesText (a :: as) ++ ("\n" ++ block more), rfl⟩

/-- A label is read as the name just when the name survives as a value. -/
theorem labelReads_iff (split : d.parts = before ++ .cluster c :: behind)
    (has : HasLabel c name) : d.LabelReads pairs before c name ↔ Survives pairs name.toList := by
  obtain ⟨tail, text⟩ := text_eq_upToLabel split has
  have chars : (quote name ++ (" " ++ tail)).toList =
      quoteChars name.toList ++ ' ' :: tail.toList := by
    rw [quote, String.toList_append, String.toList_append, String.toList_ofList]
    rfl
  unfold LabelReads
  rw [text]
  constructor
  · rintro ⟨source, rest, same, read⟩
    replace same := congrArg String.toList same
    rw [String.toList_append, String.toList_append (t := source)] at same
    rw [← List.append_cancel_left same, chars] at read
    exact (readText_quoteChars_iff.mp read).2
  · intro survives
    refine ⟨_, tail.toList, rfl, ?_⟩
    rw [chars]
    exact readText_quoteChars_iff.mpr ⟨rfl, survives⟩

/-- All labels of clusters that have them are read just when they survive as values. -/
theorem labelsRead_iff {rest : List Part} {names : List String} (split : d.parts = before ++ rest)
    (has : List.Forall₂ HasLabel { d with parts := rest }.clusters names) :
    d.LabelsRead pairs before rest names ↔ ∀ n ∈ names, Survives pairs n.toList := by
  induction rest generalizing before names with
  | nil =>
    cases has
    exact iff_of_true (.done before) nofun
  | cons p rest ih =>
    have next : d.parts = (before ++ [p]) ++ rest := by simp [split]
    cases p with
    | item i =>
      rw [← ih next has]
      constructor
      · rintro ⟨⟩
        assumption
      · exact .item i
    | cluster c =>
      obtain ⟨n, names', first, others, rfl⟩ := List.forall₂_cons_left_iff.mp has
      rw [List.forall_mem_cons, ← labelReads_iff split first, ← ih next others]
      constructor
      · rintro ⟨⟩
        constructor <;> assumption
      · rintro ⟨label, more⟩
        exact .cluster label more

end Document

end Dot

namespace Layout

open Dot

variable {g : Graph} {o : Options} {d : Document}

/-- The clusters are labelled with the names of the frames. -/
theorem clusters_labels (distinct : g.ids.Nodup) (made : document g o = .ok d) :
    List.Forall₂ Document.HasLabel d.clusters (g.frames.map (·.name)) := by
  obtain ⟨margin, parts⟩ := parts_of_document made
  rw [clusters_eq parts, ← groups_frames distinct, List.map_map,
    List.forall₂_map_left_iff, List.forall₂_map_right_iff, List.forall₂_same]
  exact fun x _ => ⟨_, _, rfl⟩

/-- The labels in the document for a query are read as the names of its named queries exactly when
each of these names survives as a value. -/
theorem labelsRead_query_iff {pairs : Bool} {q : Query} {ctx : BuildContext}
    (made : document (q.graph ctx) o = .ok d) :
    d.LabelsRead pairs [] d.parts (q.bindings.map (·.name)) ↔
      ∀ b ∈ q.bindings, Survives pairs b.name.toList := by
  have distinct : (q.graph ctx).ids.Nodup := by
    rw [Query.graph, Query.takeQuery_run]
    exact (Builder.run_sound ctx q.calls).nodup_ids
  have labels := clusters_labels distinct made
  rw [q.graph_frames ctx] at labels
  rw [Document.labelsRead_iff rfl labels, List.forall_mem_map]

/-- The lengths can be written into the document for a query; the padding only if it has a named
query. -/
theorem suit_query_iff (ctx : BuildContext) {q : Query} :
    o.Suit (q.graph ctx) ↔ (Within o.nodeSpacing ∧ Within o.layerSpacing) ∧
      (q.bindings ≠ [] → Writable o.groupPadding) := by
  have groups : (q.graph ctx).groupIds = [] ↔ q.bindings = [] := by
    rw [← List.map_eq_nil_iff (f := Binding.name), ← q.graph_frames ctx, List.map_eq_nil_iff,
      Graph.frames, ← frames_snd, List.map_eq_nil_iff, Graph.groupIds, ← frames_ids,
      List.map_eq_nil_iff]
  rw [← groups.ne]
  exact ⟨fun h => ⟨⟨h.nodeSpacing, h.layerSpacing⟩, h.groupPadding⟩, fun h => ⟨h.1.1, h.1.2, h.2⟩⟩

/-- The document for a query has one label for each of its named queries, and all of them are read
as the names, exactly when the lengths can be written, without which there is no document, and each
name survives as a value. -/
theorem labels_read_iff (pairs : Bool) (q : Query) (ctx : BuildContext) (o : Options) :
    (∃ d, document (q.graph ctx) o = .ok d ∧
        d.LabelsRead pairs [] d.parts (q.bindings.map (·.name))) ↔
      ((Within o.nodeSpacing ∧ Within o.layerSpacing) ∧
        (q.bindings ≠ [] → Writable o.groupPadding)) ∧
        ∀ b ∈ q.bindings, Survives pairs b.name.toList := by
  rw [← suit_query_iff ctx]
  constructor
  · rintro ⟨d, made, reads⟩
    exact ⟨exists_document_iff.mp ⟨d, made⟩, (labelsRead_query_iff made).mp reads⟩
  · rintro ⟨suits, survive⟩
    obtain ⟨d, made⟩ := exists_document_iff.mpr suits
    exact ⟨d, made, (labelsRead_query_iff made).mpr survive⟩

/-- A query with a named query whose name is markup. -/
def boldName : Query :=
  let body : Selection :=
    ⟨[⟨.of (.column [.bare "t", .bare "x"]), none⟩], [⟨"t", none, none⟩], none, [], [], none⟩
  .withBindings [⟨"<b>", body⟩] body false

/-- Markup is written as it is, so it is not read as a text. -/
theorem labels_misread :
    ¬ ∀ (q : Query) (ctx : BuildContext) (o : Options) (d : Document),
      document (q.graph ctx) o = .ok d →
      d.LabelsRead false [] d.parts (q.bindings.map (·.name)) := by
  intro all
  have suits : ({} : Options).Suit (boldName.graph ⟨.postgres, []⟩) :=
    (suit_query_iff _).mpr ⟨by decide +kernel, fun _ => by decide +kernel⟩
  obtain ⟨d, made⟩ := exists_document_iff.mpr suits
  have survive := (labelsRead_query_iff made).mp (all boldName ⟨.postgres, []⟩ {} d made)
  have text := (survive _ List.mem_cons_self).text
  cases text

end Layout

end QueryFlow
