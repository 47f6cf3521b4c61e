import QueryFlow.Query.Selection
import Mathlib.Data.List.Basic
import Mathlib.Data.List.Induction

/-!
Joins by shared columns, up to the entries of a FROM clause. The condition that a list of shared
columns stands for refers to each of them on the left and then on the right, in the order of the
list. Which entry is on the left is remembered while the joins are read; the main statement says
without that memory where a join of a plain table stands among the entries, and which is in front of
it. Joins with a condition of their own are not considered.
-/

namespace QueryFlow

open Sql

namespace Sql.Expr

theorem subtermsOf_eq (xs : List Expr) : subtermsOf xs = xs.flatMap subterms := by
  induction xs with
  | nil => rfl
  | cons x rest ih => rw [subtermsOf, ih, List.flatMap_cons]

/-- A node refers to what it means by itself and then to what its operands refer to. -/
theorem references_node (f : Form) (notes : List String) (xs : List Expr) :
    (node f notes xs).references = (Reference.ofForm? f).toList ++ xs.flatMap references := by
  have below : (subtermsOf xs).filterMap (fun x => Reference.ofForm? x.form) =
      xs.flatMap references := by
    rw [subtermsOf_eq, List.filterMap_flatMap]
    rfl
  rw [references, subterms, List.filterMap_cons, below]
  cases h : Reference.ofForm? f <;> simp [form, h]

end Sql.Expr

/-- The entry without what joins it. -/
def FromEntry.bare (e : FromEntry) : FromEntry := { e with join := none }

namespace Selection

variable {shared : List Name} {clauses : List Expr} {item : Expr}

theorem references_columnOf (table : String) (column : Name) :
    (columnOf table column).references = [⟨nonEmpty? table, column.text⟩] := by
  rw [columnOf, Expr.of, Expr.references_node]
  rfl

/-- The condition that two tables agree on one column. -/
def agreement (left right : String) (column : Name) : Expr :=
  .of (.binary .equal) [columnOf left column, columnOf right column]

theorem references_agreement (left right : String) (column : Name) :
    (agreement left right column).references =
      [⟨nonEmpty? left, column.text⟩, ⟨nonEmpty? right, column.text⟩] := by
  rw [agreement, Expr.of, Expr.references_node]
  simp only [List.flatMap_cons, references_columnOf]
  rfl

def leftOperand (e : Expr) : Expr :=
  match e.form with
  | .binary .and | .binary .or => .of .paren [e]
  | _ => e

theorem references_leftOperand (e : Expr) : (leftOperand e).references = e.references := by
  unfold leftOperand
  split
  · rw [Expr.of, Expr.references_node]
    simp [Reference.ofForm?]
  · rw [Expr.of, Expr.references_node]
    simp [Reference.ofForm?]
  · rfl

/-- One more shared column is put behind the condition so far. -/
theorem sharedCondition?_concat (left right : String) (shared : List Name) (column : Name) :
    sharedCondition? left right (shared ++ [column]) =
      some (match sharedCondition? left right shared with
        | none => agreement left right column
        | some e => .of (.binary .and) [leftOperand e, agreement left right column]) := by
  rw [sharedCondition?, List.foldl_append, ← sharedCondition?]
  cases sharedCondition? left right shared <;> rfl

/-- The condition of a list of shared columns refers to the two sides of each of them, in order. -/
theorem references_sharedCondition? (left right : String) (shared : List Name) :
    (sharedCondition? left right shared).toList.flatMap Expr.references =
      shared.flatMap fun c => [⟨nonEmpty? left, c.text⟩, ⟨nonEmpty? right, c.text⟩] := by
  -- The condition grows to the right, so the induction takes the last column off.
  induction shared using List.reverseRecOn with
  | nil => rfl
  | append_singleton shared column ih =>
    rw [sharedCondition?_concat, List.flatMap_append, ← ih]
    cases sharedCondition? left right shared with
    | none => simp [references_agreement]
    | some e =>
      simp [Expr.of, Expr.references_node, references_leftOperand, references_agreement,
        Reference.ofForm?]

/-- So it is with a condition between two tables that have names. -/
theorem references_of_sharedCondition? {left right : String} {e : Expr} (hl : left ≠ "")
    (hr : right ≠ "") (found : sharedCondition? left right shared = some e) :
    e.references = shared.flatMap fun c => [⟨some left, c.text⟩, ⟨some right, c.text⟩] := by
  have all := references_sharedCondition? left right shared
  rw [found, nonEmpty?_eq_some.mpr ⟨rfl, hl⟩, nonEmpty?_eq_some.mpr ⟨rfl, hr⟩] at all
  simpa using all

theorem exists_sharedCondition? (left right : String) (named : shared ≠ []) :
    ∃ e, sharedCondition? left right shared = some e := by
  obtain ⟨front, column, rfl⟩ := (List.eq_nil_or_concat' shared).resolve_left named
  exact ⟨_, sharedCondition?_concat left right front column⟩

def joinedItem? : Expr → Option Expr
  | .node (.join _) _ (item :: _) => some item
  | _ => none

/-- The FROM items in front of a join, given all clauses and those before its own. -/
def itemsInFront (clauses before : List Expr) : List Expr :=
  (firstItem? clauses).toList ++ before.filterMap joinedItem?

/-- The entries of the plain tables among FROM items, without what joins them. -/
def keptOf (items : List Expr) : List FromEntry := items.filterMap (ofItem? · none)

def aliasName? (shown : Option ItemAlias) : Option String :=
  (shown.bind (·.name)).bind fun n => nonEmpty? n.text

/-- Plain tables are those whose path ends in a name. -/
theorem ofItem?_eq_some {join : Option JoinMarker} {e : FromEntry} :
    ofItem? item join = some e ↔ ∃ path shown n, item.form = .table path shown ∧
      path.getLast? = some n ∧ n.text ≠ "" ∧ e = ⟨n.text, aliasName? shown, join⟩ := by
  unfold ofItem?
  constructor
  · intro plain
    split at plain
    case h_2 => cases plain
    case h_1 path shown form =>
      split at plain
      case h_2 => cases plain
      case h_1 table named =>
        obtain ⟨n, last, named⟩ := Option.bind_eq_some_iff.mp named
        obtain ⟨rfl, given⟩ := nonEmpty?_eq_some.mp named
        exact ⟨path, shown, n, form, last, given, (Option.some.inj plain).symm⟩
  · rintro ⟨path, shown, n, form, last, given, rfl⟩
    simp only [form, last, Option.bind_some, nonEmpty?_eq_some.mpr ⟨rfl, given⟩, aliasName?]

/-- What joins a table does not matter for its entry otherwise. -/
theorem ofItem?_eq (item : Expr) (join : Option JoinMarker) :
    ofItem? item join = (ofItem? item none).map ({ · with join := join }) := by
  unfold ofItem?
  split
  · split <;> rfl
  · rfl

theorem bare_of_plain {e : FromEntry} (plain : ofItem? item none = some e)
    (join : Option JoinMarker) : FromEntry.bare { e with join := join } = e := by
  obtain ⟨_, _, _, _, _, _, rfl⟩ := ofItem?_eq_some.mp plain
  rfl

/-- A plain table is known by the same name on the right of a join and as an entry. -/
theorem rightName_eq {e : FromEntry} (plain : ofItem? item none = some e) :
    rightName item = e.visibleName := by
  obtain ⟨path, shown, n, form, last, _, rfl⟩ := ofItem?_eq_some.mp plain
  simp only [rightName, form, last, FromEntry.visibleName]
  change (aliasName? shown <|> some n.text).getD "" = (aliasName? shown).getD n.text
  cases aliasName? shown <;> rfl

/-- An entry is known by a name that is not empty. -/
theorem visibleName_ne_empty {e : FromEntry} (plain : ofItem? item none = some e) :
    e.visibleName ≠ "" := by
  obtain ⟨path, shown, n, _, _, given, rfl⟩ := ofItem?_eq_some.mp plain
  cases aliased : aliasName? shown with
  | none => exact given
  | some other =>
    obtain ⟨n, _, aliased⟩ := Option.bind_eq_some_iff.mp aliased
    obtain ⟨rfl, given⟩ := nonEmpty?_eq_some.mp aliased
    exact given

/-- The name of the last entry, where another name stands in front of all. -/
def nameBehind (previous : String) (entries : List FromEntry) : String :=
  (entries.getLast?.map FromEntry.visibleName).getD previous

theorem nameBehind_append (previous : String) (entries more : List FromEntry) :
    nameBehind previous (entries ++ more) = nameBehind (nameBehind previous entries) more := by
  simp only [nameBehind, List.getLast?_append]
  cases more.getLast? <;> rfl

/-- The entries of more joins begin with the name behind the others. -/
theorem joinEntries_append (previous : String) (before after : List Expr) :
    joinEntries previous (before ++ after) = joinEntries previous before ++
      joinEntries (nameBehind previous (joinEntries previous before)) after := by
  fun_induction joinEntries previous before with
  | case1 => rfl
  | case2 previous k notes item condition rest e kept ih =>
    rw [List.cons_append, joinEntries, kept]
    simp only [ih, List.cons_append]
    rw [← List.singleton_append (l := joinEntries e.visibleName rest), nameBehind_append]
    rfl
  | case3 previous k notes item condition rest other ih =>
    rw [List.cons_append, joinEntries, other]
    exact ih
  | case4 previous c rest other ih =>
    rw [List.cons_append, joinEntries]
    · exact ih
    · exact other

/-- The joins keep the plain tables that they join. -/
theorem joinEntries_bare (previous : String) (clauses : List Expr) :
    (joinEntries previous clauses).map FromEntry.bare = keptOf (clauses.filterMap joinedItem?) := by
  fun_induction joinEntries previous clauses with
  | case1 => rfl
  | case2 previous k notes item condition rest e kept ih =>
    rw [ofItem?_eq] at kept
    obtain ⟨plain, same, rfl⟩ := Option.map_eq_some_iff.mp kept
    simp only [List.filterMap_cons, joinedItem?, keptOf, same]
    rw [List.map_cons, ih, bare_of_plain same]
    rfl
  | case3 previous k notes item condition rest other ih =>
    rw [ofItem?_eq, Option.map_eq_none_iff] at other
    simp only [joinedItem?, keptOf, List.filterMap_cons, other]
    exact ih
  | case4 previous c rest other ih =>
    have unjoined : joinedItem? c = none := by
      unfold joinedItem?
      split
      · next k notes item condition => exact absurd rfl (other k notes item condition)
      · rfl
    simp only [unjoined, List.filterMap_cons]
    exact ih

/-- The entries are those of the first item and of the joins behind it. -/
theorem entriesOf_eq (clauses : List Expr) :
    entriesOf clauses = keptOf (firstItem? clauses).toList ++
      joinEntries (nameBehind "" (keptOf (firstItem? clauses).toList)) clauses := by
  unfold entriesOf
  cases firstItem? clauses with
  | none => rfl
  | some item =>
    simp only [Option.bind_some, Option.toList_some, keptOf, List.filterMap_cons]
    cases ofItem? item none <;> rfl

theorem keptOf_append (items more : List Expr) :
    keptOf (items ++ more) = keptOf items ++ keptOf more := List.filterMap_append

theorem keptOf_bare (items : List Expr) : (keptOf items).map FromEntry.bare = keptOf items := by
  rw [keptOf, List.map_filterMap]
  refine List.filterMap_congr fun item _ => ?_
  cases plain : ofItem? item none with
  | none => rfl
  | some e => exact congrArg some (bare_of_plain plain none)

theorem nameBehind_bare (previous : String) (entries : List FromEntry) :
    nameBehind previous (entries.map FromEntry.bare) = nameBehind previous entries := by
  rw [nameBehind, List.getLast?_map, Option.map_map]
  rfl

/-- A join by shared columns has a marker with their condition. -/
theorem marker?_shared {k : JoinKind} (named : k.shared ≠ []) (previous : String) (item : Expr) :
    marker? previous k item [] =
      some ⟨.ofKind k, sharedCondition? previous (rightName item) k.shared⟩ := by
  have explicit : isExplicit k = true := by simp [isExplicit, named]
  rw [marker?, if_pos explicit]

/-- A join of a plain table by shared columns, behind at least one other plain table. -/
structure SharedJoin (clauses : List Expr) where
  before : List Expr
  kind : JoinKind
  notes : List String
  item : Expr
  after : List Expr
  split : clauses = before ++ .node (.join kind) notes [item] :: after
  shared : kind.shared ≠ []
  /-- The joined table, without what joins it. -/
  table : FromEntry
  plain : ofItem? item none = some table
  /-- The last plain table in front of it. -/
  previous : FromEntry
  front : (keptOf (itemsInFront clauses before)).getLast? = some previous

namespace SharedJoin

variable (j : SharedJoin clauses)

/-- The number of plain tables in front. -/
def place : Nat := (keptOf (itemsInFront clauses j.before)).length

/-- The references to the two sides of each shared column. -/
def references : List Reference :=
  j.kind.shared.flatMap fun c =>
    [⟨some j.previous.visibleName, c.text⟩, ⟨some j.table.visibleName, c.text⟩]

/-- Each shared column twice. -/
def columns : List String := j.kind.shared.flatMap fun c => [c.text, c.text]

theorem columns_references : j.references.map (·.column) = j.columns := by
  simp [references, columns, List.map_flatMap]

/-- The table stands among the entries behind those in front, and the condition of its join refers
to both sides of all shared columns. -/
theorem entries_eq : ∃ front back condition,
    (ofClauses clauses).entries =
      front ++ { j.table with join := some ⟨.ofKind j.kind, some condition⟩ } :: back ∧
    front.length = j.place ∧ front ≠ [] ∧ condition.references = j.references := by
  -- `front` is what has been read when the join is reached.
  let first := keptOf (firstItem? clauses).toList
  let front := first ++ joinEntries (nameBehind "" first) j.before
  have bare : front.map FromEntry.bare = keptOf (itemsInFront clauses j.before) := by
    rw [List.map_append, joinEntries_bare, keptOf_bare, itemsInFront, keptOf_append]
  have behind : nameBehind "" front = j.previous.visibleName := by
    rw [← nameBehind_bare, bare, nameBehind, j.front]
    rfl
  obtain ⟨condition, found⟩ :=
    exists_sharedCondition? (nameBehind "" front) (rightName j.item) j.shared
  have marked : ofItem? j.item (marker? (nameBehind "" front) j.kind j.item []) =
      some { j.table with join := some ⟨.ofKind j.kind, some condition⟩ } := by
    rw [marker?_shared j.shared, found, ofItem?_eq, j.plain]
    rfl
  refine ⟨front, joinEntries j.table.visibleName j.after, condition, ?_, ?_, ?_, ?_⟩
  · calc (ofClauses clauses).entries
      _ = first ++ joinEntries (nameBehind "" first) clauses := entriesOf_eq clauses
      _ = first ++ joinEntries (nameBehind "" first)
            (j.before ++ .node (.join j.kind) j.notes [j.item] :: j.after) :=
          congrArg (first ++ joinEntries (nameBehind "" first) ·) j.split
      _ = front ++ joinEntries (nameBehind "" front)
            (.node (.join j.kind) j.notes [j.item] :: j.after) := by
          rw [joinEntries_append, ← nameBehind_append, ← List.append_assoc]
      _ = _ := by
          rw [joinEntries, marked]
          rfl
  · rw [place, ← bare, List.length_map]
  · intro alone
    have last := j.front
    rw [← bare, alone] at last
    cases last
  · have named : j.previous.visibleName ≠ "" := by
      obtain ⟨item, _, plain⟩ := List.mem_filterMap.mp (List.mem_of_getLast? j.front)
      exact visibleName_ne_empty plain
    rw [behind, rightName_eq j.plain] at found
    exact references_of_sharedCondition? named (visibleName_ne_empty j.plain) found

end SharedJoin

end Selection

end QueryFlow
