import QueryFlow.Schema.Load
import Mathlib.Control.Monad.Basic

/-!
How loading known tables from a file ends. It should end with tables or with a fault of the schema,
which is the only kind of fault that those who load a schema look out for. The main statement says
exactly when it does, for settings that hold. A file of JSON may hold any bytes and have any path,
but a script must be text, at a path that can be one, with default values that can be written. Two
bytes that are no text show the difference.
-/

namespace QueryFlow

namespace Files

variable {files : Files} {path : String}

/-- Going further on a path fails because nothing is there or because a name is too long. -/
theorem fault_of_enter {place : Place} {part : String} {f : ReadFault}
    (failed : files.enter place part = .error f) : f = .missing ∨ f = .tooLong := by
  unfold enter at failed
  grind

theorem fault_of_walk {place : Place} {parts : List String} {f : ReadFault}
    (failed : parts.foldlM (enter files) place = .error f) : f = .missing ∨ f = .tooLong := by
  induction parts generalizing place with
  | nil => cases failed
  | cons part rest ih =>
    rw [List.foldlM_cons] at failed
    cases step : files.enter place part with
    | error g =>
      rw [step] at failed
      cases failed
      exact fault_of_enter step
    | ok next =>
      rw [step] at failed
      exact ih failed

/-- Finding an entry fails without looking at what files hold. -/
theorem fault_of_entry {f : ReadFault} (failed : files.entry path = .error f) :
    f = .missing ∨ f = .tooLong ∨ (f = .nullCharacter ∧ Char.ofNat 0 ∈ path.toList) := by
  unfold entry at failed
  split at failed
  case isTrue held =>
    cases failed
    exact .inr (.inr ⟨rfl, List.contains_iff_mem.mp held⟩)
  split at failed
  case isTrue => exact .inr (.inl (Except.error.inj failed).symm)
  split at failed
  case h_1 => cases failed
  dsimp only at failed
  cases walked : (Path.parts path).foldlM (enter files)
      (if (Path.root path).isEmpty then .inside [] else .outside) with
  | error g =>
    rw [walked] at failed
    obtain rfl : g = f := Except.error.inj failed
    exact (fault_of_walk walked).imp_right .inl
  | ok place =>
    rw [walked] at failed
    cases place with
    | outside => cases failed
    | inside names =>
      dsimp only at failed
      split at failed
      · cases failed
      · exact .inl (Except.error.inj failed).symm

theorem text_encoding_iff :
    files.text path = .error .encoding ↔
      ∃ bytes, files.entry path = .ok (.file bytes) ∧ String.fromUTF8? bytes = none := by
  unfold text
  cases found : files.entry path with
  | error f =>
    have other := fault_of_entry found
    grind
  | ok e => cases e <;> grind

theorem text_nullCharacter_iff :
    files.text path = .error .nullCharacter ↔ Char.ofNat 0 ∈ path.toList := by
  unfold text
  constructor
  · intro failed
    cases found : files.entry path with
    | error f =>
      have other := fault_of_entry found
      grind
    | ok e => cases e <;> grind
  · intro held
    have refused : files.entry path = .error .nullCharacter := by
      rw [entry, if_pos (List.contains_iff_mem.mpr held)]
    rw [refused]

end Files

namespace Schema

variable {s : Settings} {files : Files} {path : String} {dialect : Option String} {text : String}

/-- With settings that hold, only an unknown name keeps a dialect from being chosen. -/
theorem resolve_fault {name : Option String} {f : DialectFault}
    (fault : Sql.Dialect.resolve (.ok s) name = .error f) : ∃ n, f = .unknown n := by
  unfold Sql.Dialect.resolve at fault
  dsimp only at fault
  split at fault <;> split at fault <;> cases fault <;> exact ⟨_, rfl⟩

/-- With settings that hold, only a fault of the schema keeps a script from being read. -/
theorem readDeclarations_fault {f : LoadFault}
    (fault : readDeclarations (.ok s) dialect text = .error f) : ∃ cause, f = .schema cause := by
  unfold readDeclarations at fault
  cases chosen : Sql.Dialect.resolve (.ok s) dialect with
  | error cause =>
    obtain ⟨n, rfl⟩ := resolve_fault chosen
    rw [chosen] at fault
    exact ⟨_, (Except.error.inj fault).symm⟩
  | ok d =>
    rw [chosen] at fault
    dsimp only at fault
    split at fault
    · exact ⟨_, (Except.error.inj fault).symm⟩
    · cases fault

/-- An end of loading that is looked out for. -/
inductive Orderly : Except LoadFault (List Table) → Prop
  | tables (ts : List Table) : Orderly (.ok ts)
  | fault (f : SchemaFault) : Orderly (.error (.schema f))

theorem orderly_ofScript_iff :
    Orderly (ofScript (.ok s) dialect text) ↔
      ∀ d script, readDeclarations (.ok s) dialect text = .ok (d, script) →
        writesScript d script = true := by
  unfold ofScript
  cases read : readDeclarations (.ok s) dialect text with
  | error f =>
    obtain ⟨cause, rfl⟩ := readDeclarations_fault read
    exact iff_of_true (.fault cause) nofun
  | ok found =>
    obtain ⟨d, script⟩ := found
    dsimp only [declaredTables]
    cases written : writesScript d script with
    | true => exact iff_of_true (.tables _) fun _ _ same => by cases same; exact written
    | false =>
      refine iff_of_false nofun fun all => ?_
      rw [all d script rfl] at written
      cases written

/-- With settings that hold, loading ends with tables or a fault of the schema exactly when the path
names a file of JSON, or it can be a path and a file there is a text whose default values can be
written. -/
theorem load_orderly_iff (s : Settings) (files : Files) (path : String) (dialect : Option String) :
    Orderly (load (.ok s) files path dialect) ↔
      isJsonPath path = true ∨
        Char.ofNat 0 ∉ path.toList ∧
        (∀ bytes, files.entry path = .ok (.file bytes) →
          (String.fromUTF8? bytes).isSome = true) ∧
        ∀ text d script, files.text path = .ok text →
          readDeclarations (.ok s) dialect text = .ok (d, script) →
          writesScript d script = true := by
  have decoded : (∀ bytes, files.entry path = .ok (.file bytes) →
      (String.fromUTF8? bytes).isSome = true) ↔ files.text path ≠ .error .encoding := by
    simp only [ne_eq, Files.text_encoding_iff, not_exists, not_and, Option.isSome_iff_ne_none]
  rw [decoded, ← Files.text_nullCharacter_iff, load]
  split
  case isTrue json =>
    refine iff_of_true ?_ (.inl json)
    cases loadJson files path with
    | error f => exact .fault f
    | ok ts => exact .tables ts
  case isFalse script =>
    rw [or_iff_right script, scriptText]
    cases read : files.text path with
    | ok text =>
      refine orderly_ofScript_iff.trans
        ⟨fun all => ⟨nofun, nofun, ?_⟩, fun all d script => all.2.2 text d script rfl⟩
      rintro _ d script ⟨⟩
      exact all d script
    | error e =>
      cases e with
      | encoding => exact iff_of_false nofun fun all => all.2.1 rfl
      | nullCharacter => exact iff_of_false nofun fun all => all.1 rfl
      | missing | directory | tooLong =>
        exact iff_of_true (.fault _) ⟨nofun, nofun, nofun⟩

/-- Two bytes that are no text. -/
def brokenFiles : Files := [("s.sql", .file ⟨#[0xff, 0xfe]⟩)]

/-- Not every loading ends with tables or a fault of the schema. -/
theorem load_disorderly :
    ¬ ∀ (s : Settings) (files : Files) (path : String) (dialect : Option String),
      Orderly (load (.ok s) files path dialect) := by
  intro all
  have ended : load (.ok {}) brokenFiles "s.sql" none = .error .encoding := by decide +kernel
  have orderly := all {} brokenFiles "s.sql" none
  rw [ended] at orderly
  cases orderly

end Schema

end QueryFlow
