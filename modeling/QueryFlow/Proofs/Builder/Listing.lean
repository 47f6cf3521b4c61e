import QueryFlow.Proofs.Builder.Schema
import QueryFlow.Proofs.Lineage.FromOrder

/-!
The columns that a table lists. A SELECT asks for columns by name or by a star, with a qualifier or
without one, and of each table it reads this should give a part of what the schema knows. The
references are noted in the order of the text, though, where a star is a column like others and a
reserved qualifier stands for none. The main statement says for every call just when each table
lists the columns that are asked of it. Where neither the reserved qualifier nor a column named `*`
is written, this is always so. Nothing is said about columns of results.
-/

namespace QueryFlow

open Sql

/-- The entry is meant by a qualifier, or there is none. -/
def FromEntry.MeantBy (e : FromEntry) (qualifier : Option String) : Prop :=
  ∀ q ∈ qualifier, e.knownAs q = true

instance (e : FromEntry) (qualifier : Option String) : Decidable (e.MeantBy qualifier) :=
  inferInstanceAs (Decidable (∀ q ∈ qualifier, e.knownAs q = true))

@[simp] theorem FromEntry.meantBy_none (e : FromEntry) : e.MeantBy none := by simp [MeantBy]

@[simp] theorem FromEntry.meantBy_some (e : FromEntry) (q : String) :
    e.MeantBy (some q) ↔ e.knownAs q = true := by simp [MeantBy]

/-- What one node of an expression asks for: all columns, or those of a name. -/
inductive Wanted where
  | all (qualifier : Option String)
  | column (qualifier : Option String) (name : String)
  deriving DecidableEq

namespace Wanted

/-- What a node asks for by itself. -/
def ofForm? : Form → Option Wanted
  | .column path => some (.column (Reference.ofPath path).table (Reference.ofPath path).column)
  | .allOf path => some (.all (Reference.allOf path).table)
  | .star => some (.all none)
  | _ => none

def Asks (e : FromEntry) (name : String) : Wanted → Prop
  | all q => e.MeantBy q
  | column q c => e.MeantBy q ∧ c = name

instance (e : FromEntry) (name : String) : DecidablePred (Asks e name)
  | all q => inferInstanceAs (Decidable (e.MeantBy q))
  | column q c => inferInstanceAs (Decidable (e.MeantBy q ∧ c = name))

/-- How it is noted: a star is the column `*`. -/
def reference : Wanted → Reference
  | all q => ⟨q, "*"⟩
  | column q c => ⟨q, c⟩

theorem reference_ofForm? (f : Form) : (ofForm? f).map reference = Reference.ofForm? f := by
  cases f <;> rfl

end Wanted

namespace Selection

/-- All that a SELECT asks for, in the order of the text. -/
def wanted (s : Selection) : List Wanted :=
  (Usage.expressionsOf s).flatMap fun e => e.subterms.filterMap (Wanted.ofForm? ·.form)

def AsksFor (s : Selection) (e : FromEntry) (name : String) : Prop :=
  ∃ w ∈ s.wanted, w.Asks e name

instance (s : Selection) (e : FromEntry) (name : String) : Decidable (s.AsksFor e name) :=
  inferInstanceAs (Decidable (∃ w ∈ s.wanted, w.Asks e name))

theorem wanted_reference (s : Selection) : s.wanted.map Wanted.reference = s.references := by
  rw [wanted, List.map_flatMap]
  refine List.flatMap_congr fun e _ => ?_
  rw [List.map_filterMap, Expr.references]
  exact List.filterMap_congr fun x _ => Wanted.reference_ofForm? x.form

variable {s : Selection} {q : Option String} {c : String}

theorem mem_references_iff :
    ⟨q, c⟩ ∈ s.references ↔ .column q c ∈ s.wanted ∨ c = "*" ∧ .all q ∈ s.wanted := by
  rw [← wanted_reference, List.mem_map]
  constructor
  · rintro ⟨w, hw, same⟩
    cases w with
    | all q' =>
      obtain ⟨rfl, rfl⟩ := Reference.mk.inj same
      exact .inr ⟨rfl, hw⟩
    | column q' c' =>
      obtain ⟨rfl, rfl⟩ := Reference.mk.inj same
      exact .inl hw
  · rintro (hw | ⟨rfl, hw⟩)
    · exact ⟨_, hw, rfl⟩
    · exact ⟨_, hw, rfl⟩

end Selection

namespace Usage

def Shows (u : Usage) (e : FromEntry) (name : String) : Prop :=
  u.showAll = true ∨ (∃ q, e.knownAs q = true ∧ ("*" ∈ u.under q ∨ name ∈ u.under q)) ∨
    name ∈ u.under unqualified

theorem exists_knownAs {e : FromEntry} {P : String → Prop} :
    (∃ q, e.knownAs q = true ∧ P q) ↔ (∃ a, e.alias = some a ∧ P a) ∨ P e.table := by
  simp only [FromEntry.knownAs, Bool.or_eq_true, beq_iff_eq, or_and_right, exists_or,
    exists_eq_left', or_comm]

theorem mem_alias {e : FromEntry} (u : Usage) (name : String) :
    name ∈ (e.alias.map u.under).getD [] ↔ ∃ a, e.alias = some a ∧ name ∈ u.under a := by
  cases e.alias <;> simp

/-- What is kept is what the entry shows. -/
theorem keep_eq_filter (u : Usage) (e : FromEntry) (columns : List ColumnRef) :
    ∃ shown : ColumnRef → Bool, (∀ x, shown x = true ↔ u.Shows e x.name) ∧
      u.keep e.table e.alias columns = columns.filter shown := by
  unfold Shows keep
  simp only [exists_knownAs, and_or_left, exists_or]
  split
  case isTrue all =>
    simp only [Bool.or_eq_true, List.contains_iff_mem, mem_alias] at all
    refine ⟨fun _ => true, fun x => iff_of_true rfl ?_, by simp⟩
    rcases all with (all | byAlias) | byName
    · exact .inl all
    · exact .inr (.inl (.inl (.inl byAlias)))
    · exact .inr (.inl (.inl (.inr byName)))
  case isFalse part =>
    refine ⟨_, fun x => ?_, rfl⟩
    simp only [Bool.or_eq_true, List.contains_iff_mem, mem_alias, not_or] at part ⊢
    simp only [part, Bool.false_eq_true, false_or]

/-- The kept columns are those that fulfil a condition just when the entry shows the same ones. -/
theorem keep_eq_iff (u : Usage) (e : FromEntry) (columns : List ColumnRef)
    (fits : ColumnRef → Bool) : u.keep e.table e.alias columns = columns.filter fits ↔
      ∀ x ∈ columns, (u.Shows e x.name ↔ fits x = true) := by
  obtain ⟨shown, shows, kept⟩ := u.keep_eq_filter e columns
  simp only [kept, ← shows]
  constructor
  · intro same x hx
    have mem : x ∈ columns.filter shown ↔ x ∈ columns.filter fits := by rw [same]
    simpa [hx] using mem
  · exact fun same => List.filter_congr fun x hx => Bool.eq_iff_iff.mpr (same x hx)

/-- What an entry shows where all references of a SELECT are noted: all columns if a star means it,
else those that are noted under its names or without a qualifier. -/
theorem shows_ofSelection (s : Selection) (e : FromEntry) (name : String) :
    (ofSelection s).Shows e name ↔ (∃ q, e.MeantBy q ∧ ⟨q, "*"⟩ ∈ s.references) ∨
      (∃ q, e.knownAs q = true ∧ ⟨some q, name⟩ ∈ s.references) ∨
        Stays s.references unqualified name := by
  rw [Shows, showAll_ofSelection]
  by_cases star : ⟨none, "*"⟩ ∈ s.references
  · exact iff_of_true (.inl star) (.inl ⟨none, e.meantBy_none, star⟩)
  simp only [star, false_or, mem_under_ofSelection star]
  constructor
  · rintro (⟨q, known, all | one⟩ | stays)
    · rcases all.mem with all | ⟨_, bare⟩
      · exact .inl ⟨some q, (e.meantBy_some q).mpr known, all⟩
      · exact absurd bare star
    · rcases one.mem with one' | ⟨rfl, _⟩
      · exact .inr (.inl ⟨q, known, one'⟩)
      · exact .inr (.inr one)
    · exact .inr (.inr stays)
  · rintro (⟨q, meant, all⟩ | ⟨q, known, one⟩ | stays)
    · cases q with
      | none => exact absurd all star
      | some q => exact .inl ⟨q, meant q rfl, .inl (.star all)⟩
    · by_cases all : ⟨some q, "*"⟩ ∈ s.references
      · exact .inl ⟨q, known, .inl (.star all)⟩
      · exact .inl ⟨q, known, .inr (.of_mem one rfl all)⟩
    · exact .inr stays

end Usage

namespace Selection

variable {s : Selection} {e : FromEntry} {name : String}

/-- The SELECT asks an entry for a column, and not just by its bare name. -/
def AsksOtherwise (s : Selection) (e : FromEntry) (name : String) : Prop :=
  ∃ w ∈ s.wanted, w.Asks e name ∧ w ≠ .column none name

theorem asksFor_iff :
    s.AsksFor e name ↔ s.AsksOtherwise e name ∨ .column none name ∈ s.wanted := by
  constructor
  · rintro ⟨w, hw, asks⟩
    by_cases bare : w = .column none name
    · exact .inr (bare ▸ hw)
    · exact .inl ⟨w, hw, asks, bare⟩
  · rintro (⟨w, hw, asks, _⟩ | bare)
    · exact ⟨w, hw, asks⟩
    · exact ⟨_, bare, e.meantBy_none, rfl⟩

theorem asksOtherwise_iff : s.AsksOtherwise e name ↔
    (∃ q, e.MeantBy q ∧ .all q ∈ s.wanted) ∨
      ∃ q, e.knownAs q = true ∧ .column (some q) name ∈ s.wanted := by
  constructor
  · rintro ⟨w, hw, asks, other⟩
    cases w with
    | all q => exact .inl ⟨q, asks, hw⟩
    | column q c =>
      obtain ⟨meant, rfl⟩ := asks
      cases q with
      | none => exact absurd rfl other
      | some q => exact .inr ⟨q, meant q rfl, hw⟩
  · rintro (⟨q, meant, hw⟩ | ⟨q, known, hw⟩)
    · exact ⟨_, hw, meant, by simp⟩
    · exact ⟨_, hw, ⟨(e.meantBy_some q).mpr known, rfl⟩, by simp⟩

/-- Besides what is asked for otherwise, an entry shows what stays noted without a qualifier, and
all columns if it is asked for one that is named `*`. -/
theorem shows_iff : (Usage.ofSelection s).Shows e name ↔ s.AsksOtherwise e name ∨
    (Usage.Stays s.references Usage.unqualified name ∨
      ∃ q, e.MeantBy q ∧ .column q "*" ∈ s.wanted) := by
  rw [Usage.shows_ofSelection, asksOtherwise_iff]
  simp only [mem_references_iff, true_and, and_or_left, exists_or]
  constructor
  · rintro ((quoted | all) | (one | ⟨q, known, rfl, all⟩) | stays)
    · exact .inr (.inr quoted)
    · exact .inl (.inl all)
    · exact .inl (.inr one)
    · exact .inl (.inl ⟨some q, (e.meantBy_some q).mpr known, all⟩)
    · exact .inr (.inl stays)
  · rintro ((all | one) | (stays | quoted))
    · exact .inl (.inr all)
    · exact .inr (.inl (.inl one))
    · exact .inr (.inr stays)
    · exact .inl (.inl quoted)

/-- What is noted about a column is what is asked: one that is asked for just by its bare name stays
noted without a qualifier, and nothing else comes to show the column. The reserved qualifier and a
column named `*`, which counts as a star, can break this. -/
def NotedAsAsked (s : Selection) (e : FromEntry) (name : String) : Prop :=
  s.AsksOtherwise e name ∨
    (Usage.Stays s.references Usage.unqualified name ∨
        (∃ q, e.MeantBy q ∧ .column q "*" ∈ s.wanted) ↔
      .column none name ∈ s.wanted)

theorem shows_iff_asksFor_iff :
    ((Usage.ofSelection s).Shows e name ↔ s.AsksFor e name) ↔ s.NotedAsAsked e name := by
  rw [shows_iff, asksFor_iff, NotedAsAsked]
  by_cases other : s.AsksOtherwise e name <;> simp [other]

/-- Nothing breaks it where neither the reserved qualifier nor a column named `*` is written. -/
theorem notedAsAsked_of_plain (reserved : ∀ r ∈ s.references, r.table ≠ some Usage.unqualified)
    (quoted : ∀ q, .column q "*" ∉ s.wanted) : s.NotedAsAsked e name := by
  by_cases all : .all none ∈ s.wanted
  · exact .inl (asksOtherwise_iff.mpr (.inl ⟨none, e.meantBy_none, all⟩))
  · have stays : Usage.Stays s.references Usage.unqualified name ↔
        .column none name ∈ s.wanted := by
      constructor
      · intro stays
        rcases stays.mem with tagged | ⟨_, bare⟩
        · exact absurd rfl (reserved _ tagged)
        · exact (mem_references_iff.mp bare).resolve_right fun star => all star.2
      · intro bare
        have noted : ⟨none, name⟩ ∈ s.references := mem_references_iff.mpr (.inl bare)
        exact .of_mem noted rfl fun star => reserved _ star rfl
    exact .inr (by simp [stays, quoted])

end Selection

/-- How a known column stands in the list of a table that goes by this name. -/
def Schema.Column.listedIn (table : String) (c : Schema.Column) : ColumnRef :=
  ⟨c.name, some table, some c.name, nonEmpty? c.dataType⟩

/-- The columns of a known table that a SELECT asks an entry for, in the order of the schema. -/
def Selection.asked (s : Selection) (e : FromEntry) (known : Schema.Table) : List ColumnRef :=
  (known.columns.filter fun c => s.AsksFor e c.name).map (·.listedIn e.table)

theorem BuildContext.columns_of_means (ctx : BuildContext) {name : String} {known : Schema.Table}
    (means : Schema.Means ctx.schema name known) :
    ctx.columns name = known.columns.map (·.listedIn name) := by
  rw [columns, ctx.table?_eq_some_iff.mpr means]
  rfl

theorem BuildContext.columns_of_unknown (ctx : BuildContext) {name : String}
    (unknown : ∀ known, ¬ Schema.Means ctx.schema name known) : ctx.columns name = [] := by
  rw [columns, Option.eq_none_iff_forall_ne_some.mpr fun t ht =>
    unknown t (ctx.table?_eq_some_iff.mp ht)]

/-- The columns that are kept are those that are asked for, just when this is what is noted. -/
theorem Selection.keep_eq_asked_iff {ctx : BuildContext} {s : Selection} {e : FromEntry}
    {known : Schema.Table} (means : Schema.Means ctx.schema e.table known) :
    (Usage.ofSelection s).keep e.table e.alias (ctx.columns e.table) = s.asked e known ↔
      ∀ c ∈ known.columns, s.NotedAsAsked e c.name := by
  have asked : s.asked e known =
      (ctx.columns e.table).filter fun x => decide (s.AsksFor e x.name) := by
    rw [ctx.columns_of_means means, List.filter_map]
    rfl
  rw [asked, Usage.keep_eq_iff, ctx.columns_of_means means]
  simp only [List.forall_mem_map, decide_eq_true_eq, ← shows_iff_asksFor_iff]
  rfl

/-- If the node is a table, it lists those of the known columns that are used. -/
def Node.ListsUsed (ctx : BuildContext) (u : Usage) (n : Node) : Prop :=
  ∀ t, n.data = .table t → t.columns = u.keep t.table t.alias (ctx.columns t.table)

theorem Node.listsUsed_of_none {ctx : BuildContext} {u : Usage} {n : Node} (h : n.table? = none) :
    n.ListsUsed ctx u :=
  fun t ht => absurd (by rw [kind, ht]; rfl) (table?_eq_none_iff.mp h)

namespace Builder

variable {ctx : BuildContext} {u : Usage} {b c : Builder}

def AddsUsed (ctx : BuildContext) (u : Usage) (b c : Builder) : Prop :=
  ∃ new, c.nodes = b.nodes ++ new ∧ ∀ n ∈ new, n.ListsUsed ctx u

theorem AddsUsed.refl (ctx : BuildContext) (u : Usage) (b : Builder) : AddsUsed ctx u b b :=
  ⟨[], by simp, by simp⟩

theorem AddsUsed.of_nodes {c' : Builder} (h : AddsUsed ctx u b c) (same : c'.nodes = c.nodes) :
    AddsUsed ctx u b c' := by
  obtain ⟨new, hn, lists⟩ := h
  exact ⟨new, same.trans hn, lists⟩

theorem AddsUsed.addNode (h : AddsUsed ctx u b c) (parent : Option String) {data : NodeData}
    (lists : ∀ id, Node.ListsUsed ctx u ⟨id, data, parent⟩) :
    AddsUsed ctx u b (c.addNode parent data).2 := by
  obtain ⟨new, hn, old⟩ := h
  refine ⟨new ++ [⟨nodeId data.kind c.counter, data, parent⟩], ?_, fun n mem => ?_⟩
  · rw [addNode_nodes, hn, List.append_assoc]
  · rcases List.mem_append.mp mem with mem | mem
    · exact old n mem
    · exact List.mem_singleton.mp mem ▸ lists _

theorem AddsUsed.extend (h : AddsUsed ctx u b c) (parent last : Option String) {data : NodeData}
    (other : ∀ id, Node.table? ⟨id, data, parent⟩ = none) :
    AddsUsed ctx u b (c.extend parent last data).2 := by
  have added := h.addNode parent fun id => Node.listsUsed_of_none (other id)
  exact added.of_nodes (addEdgeFrom_nodes _ _ _ _)

theorem AddsUsed.readEntry (h : AddsUsed ctx u b c) (used : c.usage = u) (parent : Option String)
    (e : FromEntry) : AddsUsed ctx u b (c.readEntry ctx parent e).2 := by
  unfold Builder.readEntry
  cases c.results.lookup e.table with
  | some id =>
    cases c.colors.lookup e.table with
    | none => exact h
    | some color => exact h.of_nodes (colorAlias_sameFlow c e.alias color).nodes
  | none =>
    have same := (colorOf_sameFlow c e.table).trans
      (colorAlias_sameFlow (c.colorOf e.table).2 e.alias (c.colorOf e.table).1)
    have used' : ((c.colorOf e.table).2.colorAlias e.alias (c.colorOf e.table).1).usage = u := by
      rw [colorAlias_usage, colorOf_usage, used]
    have added : AddsUsed ctx u b (((c.colorOf e.table).2.colorAlias e.alias
        (c.colorOf e.table).1).addNode parent (.table ⟨e.table, e.alias,
          u.keep e.table e.alias (ctx.columns e.table), (c.colorOf e.table).1⟩)).2 :=
      (h.of_nodes same.nodes).addNode parent fun id t ht => NodeData.table.inj ht ▸ rfl
    simp only [addTable, used']
    exact added

theorem AddsUsed.takeEntry {step : Option String × Builder} (h : AddsUsed ctx u b step.2)
    (used : step.2.usage = u) (parent : Option String) (e : FromEntry) :
    AddsUsed ctx u b (takeEntry ctx parent step e).2 := by
  obtain ⟨last, c⟩ := step
  have read := h.readEntry used parent e
  rcases takeEntry_cases ctx parent last c e with ⟨m, left, _, rfl, taken⟩ | ⟨_, taken⟩
  · have joined : AddsUsed ctx u b ((c.readEntry ctx parent e).2.addNode parent
        (.join (m.toJoin ctx.dialect))).2 :=
      read.addNode parent fun _ => Node.listsUsed_of_none rfl
    rw [taken]
    exact joined.of_nodes rfl
  · rw [taken]
    exact read

theorem AddsUsed.takeEntries {step : Option String × Builder} (h : AddsUsed ctx u b step.2)
    (parent : Option String) (entries : List FromEntry) (used : step.2.usage = u) :
    AddsUsed ctx u b (entries.foldl (Builder.takeEntry ctx parent) step).2 := by
  induction entries generalizing step with
  | nil => exact h
  | cons e rest ih => exact ih (h.takeEntry used parent e) ((takeEntry_usage step e).trans used)

theorem AddsUsed.filtered {step : Option String × Builder} (h : AddsUsed ctx u b step.2)
    (parent : Option String) (s : Selection) :
    AddsUsed ctx u b (filtered ctx parent s step).2 := by
  unfold Builder.filtered
  cases s.condition with
  | none => exact h
  | some x => exact h.extend parent step.1 fun _ => rfl

theorem AddsUsed.aggregated {step : Option String × Builder} (h : AddsUsed ctx u b step.2)
    (parent : Option String) (s : Selection) :
    AddsUsed ctx u b (aggregated ctx parent s step).2 := by
  unfold Builder.aggregated
  split
  · exact h
  · exact h.extend parent step.1 fun _ => rfl

/-- Within a SELECT, its own usage decides, whatever was used before. -/
theorem AddsUsed.takeInner {s : Selection} (h : AddsUsed ctx (Usage.ofSelection s) b c)
    (parent : Option String) :
    AddsUsed ctx (Usage.ofSelection s) b (c.takeInner ctx parent s).2 := by
  rw [takeInner_eq]
  let start : Option String × Builder := (none, { c with usage := Usage.ofSelection s })
  have same : AddsUsed ctx (Usage.ofSelection s) b start.2 := h.of_nodes rfl
  exact ((same.takeEntries parent s.entries rfl).filtered parent s).aggregated parent s

/-- The tables that a call adds list what its SELECT uses. -/
theorem take_addsUsed (ctx : BuildContext) (b : Builder) (call : Call) :
    AddsUsed ctx (Usage.ofSelection call.body) b (take ctx b call) := by
  cases call with
  | named name s =>
    have opened : AddsUsed ctx (Usage.ofSelection s) b (b.opened name).2 := by
      refine AddsUsed.addNode ?_ none fun _ => Node.listsUsed_of_none rfl
      exact (AddsUsed.refl ctx _ b).of_nodes rfl
    have inner := opened.takeInner (some (b.opened name).1)
    refine AddsUsed.of_nodes (inner.addNode none fun _ => ?_) (addEdgeFrom_nodes _ _ _ _)
    exact Node.listsUsed_of_none rfl
  | main s =>
    have inner := (AddsUsed.refl ctx (Usage.ofSelection s) b).takeInner none
    obtain ⟨output, _, taken⟩ := takeMain_eq ctx b s
    rw [take, taken]
    refine AddsUsed.of_nodes (inner.addNode none fun _ => ?_) (addEdgeFrom_nodes _ _ _ _)
    exact Node.listsUsed_of_none rfl

/-- A table that a call adds for an entry lists what is used of the table that the schema means. -/
theorem Gains.lists {p : Part} (h : Gains ctx b (take ctx b p.call) p) {l : Link} (hl : l ∈ p.links)
    {n : Node} (hi : l.input = .table n) : ∃ t, n.data = .table t ∧ t.mention = l.entry.mention ∧
      t.columns = (Usage.ofSelection p.call.body).keep l.entry.table l.entry.alias
        (ctx.columns l.entry.table) := by
  obtain ⟨new, hn, lists⟩ := take_addsUsed ctx b p.call
  obtain rfl : p.nodes = new := List.append_cancel_left (h.nodes.symm.trans hn)
  have answers := (h.fits.links.forall_mem l hl).1
  rw [hi] at answers
  obtain ⟨_, _, t, ht, mention⟩ := answers
  obtain ⟨table, shown⟩ := Prod.mk.inj mention
  have mem : n ∈ p.tables := List.mem_flatMap.mpr ⟨l, hl, by simp [hi, Input.node?]⟩
  refine ⟨t, ht, mention, ?_⟩
  rw [← table, ← shown]
  exact lists n (Part.mem_nodes.mpr (.inr (.inl (Part.mem_inner.mpr (.inl mem))))) t ht

/-- In every state of a builder, the table that a call adds for an entry lists the columns that its
SELECT asks of the entry just when what is noted about each known column is what is asked. A table
that the schema does not know lists none. -/
theorem take_lists_asked_iff (ctx : BuildContext) (b : Builder) (call : Call) :
    ∃ p, p.call = call ∧ Gains ctx b (take ctx b call) p ∧
      ∀ l ∈ p.links, ∀ n, l.input = .table n →
        ∃ t, n.data = .table t ∧ t.mention = l.entry.mention ∧
          ((∀ known, ¬ Schema.Means ctx.schema l.entry.table known) → t.columns = []) ∧
          ∀ known, Schema.Means ctx.schema l.entry.table known →
            (t.columns = call.body.asked l.entry known ↔
              ∀ c ∈ known.columns, call.body.NotedAsAsked l.entry c.name) := by
  obtain ⟨p, rfl, gains⟩ := take_gains ctx b call
  refine ⟨p, rfl, gains, fun l hl n hi => ?_⟩
  obtain ⟨t, ht, mention, columns⟩ := gains.lists hl hi
  refine ⟨t, ht, mention, fun unknown => ?_, fun known means => ?_⟩
  · rw [columns, ctx.columns_of_unknown unknown, Usage.keep_nil]
  · rw [columns, Selection.keep_eq_asked_iff means]

/-- A SELECT that writes neither the reserved qualifier nor a column named `*` finds in its tables
what it asks for. -/
theorem Gains.lists_asked {p : Part} (h : Gains ctx b (take ctx b p.call) p) {l : Link}
    (hl : l ∈ p.links) {n : Node} (hi : l.input = .table n)
    (reserved : ∀ r ∈ p.call.body.references, r.table ≠ some Usage.unqualified)
    (quoted : ∀ q, .column q "*" ∉ p.call.body.wanted) {known : Schema.Table}
    (means : Schema.Means ctx.schema l.entry.table known) :
    ∃ t, n.data = .table t ∧ t.columns = p.call.body.asked l.entry known := by
  obtain ⟨t, ht, _, columns⟩ := h.lists hl hi
  have asked := (Selection.keep_eq_asked_iff means).mpr fun c _ =>
    Selection.notedAsAsked_of_plain reserved quoted
  exact ⟨t, ht, columns.trans asked⟩

end Builder

namespace Query

/-- Users and products both have names. -/
def catalog : BuildContext :=
  ⟨.postgres, [⟨"users", [{ name := "id" }, { name := "name" }]⟩,
    ⟨"products", [{ name := "id" }, { name := "name" }]⟩]⟩

/-- The second entry of a cross join. -/
def products : FromEntry := ⟨"products", none, some ⟨.cross, none⟩⟩

/-- These items, of `users AS __unqualified__ CROSS JOIN products`. -/
def crossed (items : List Expr) : Selection :=
  ⟨items.map (⟨·, none⟩), [⟨"users", some "__unqualified__", none⟩, products], none, [], [], none⟩

/-- The item `__unqualified__.name` asks nothing of the products, which list a column all the
same. -/
theorem crossed_lists_unasked :
    let s := crossed [.of (.column [.bare "__unqualified__", .bare "name"])]
    ∃ t known, t ∈ ((Query.select s).graph catalog).tables ∧ products ∈ s.entries ∧
      t.mention = products.mention ∧ Schema.Means catalog.schema products.table known ∧
      t.columns.map (·.name) = ["name"] ∧ s.asked products known = [] := by
  refine ⟨⟨"products", none, [⟨"name", some "products", some "name", none⟩], 1⟩,
    ⟨"products", [{ name := "id" }, { name := "name" }]⟩, ?_, by simp [crossed], rfl,
    .inl ⟨[_], [], rfl, rfl, by simp⟩, rfl, ?_⟩
  · decide +kernel
  · decide +kernel

/-- The order counts: a star under the reserved qualifier drops what was noted in front of it. -/
example :
    let shown := fun items => ((Query.select (crossed items)).graph catalog).tables.map fun t =>
      (t.table, t.columns.map (·.name))
    let name := Expr.of (.column [.bare "name"])
    let star := Expr.of (.allOf [.bare "__unqualified__"])
    shown [name, star] = [("users", ["id", "name"]), ("products", [])] ∧
      shown [star, name] = [("users", ["id", "name"]), ("products", ["name"])] := by
  decide +kernel

end Query

end QueryFlow
