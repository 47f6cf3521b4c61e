import QueryFlow.Settings
import Mathlib.Data.List.Induction

/-!
The logger under calls that set it up, one after the other, where calls may fail. A call is taken
apart into its effects: it sets the level first and attaches a handler after that, and an effect
stays when a later one fails. The main statement says which logger any calls leave behind, and that
a call with an unknown level leaves everything as it was. Records are not looked at.
-/

namespace QueryFlow

namespace Form

variable {α β : Type}

theorem also_eq_ok_iff {f : Checked (α → β)} {x : Checked α} {b : β} :
    also f x = .ok b ↔ ∃ g a, f = .ok g ∧ x = .ok a ∧ g a = b := by
  cases f <;> cases x <;> simp [also]

end Form

open Form Logging

namespace Settings

/-- The names of levels are in capitals. -/
theorem levelOf?_upper {name : String} {n : Nat} (known : levelOf? name = some n) :
    levelOf? (Text.upper name) = some n := by
  obtain ⟨front, back, split, _⟩ := List.lookup_eq_some_iff.mp known
  have capitals : ∀ p ∈ levels, Text.upper p.1 = p.1 := by decide +kernel
  have listed : (Text.upper name, n) ∈ levels := by simp [split]
  rw [levelOf?, capitals _ listed]
  exact known

theorem known_of_levelName {j : Json} {name : String} (read : levelName j = .ok name) :
    ∃ n, levelOf? name = some n := by
  unfold levelName at read
  split at read
  · cases read
  · split at read
    case isTrue known =>
      obtain rfl := Except.ok.inj read
      obtain ⟨n, known⟩ := Option.isSome_iff_exists.mp known
      exact ⟨n, levelOf?_upper known⟩
    case isFalse => cases read

theorem known_of_withDefault {fs : List (String × Json)} {name : String}
    (read : withDefault (.plain "log_level") levelName "WARNING" fs = .ok name) :
    ∃ n, levelOf? name = some n := by
  unfold withDefault at read
  split at read
  case h_1 j found =>
    cases checked : levelName j with
    | ok name' =>
      rw [checked] at read
      obtain rfl := Except.ok.inj read
      exact known_of_levelName checked
    | error ps =>
      rw [checked] at read
      cases read
  case h_2 =>
    obtain rfl := Except.ok.inj read
    exact ⟨30, by decide +kernel⟩

/-- The level of settings that hold is known. -/
theorem known_of_ofEnvironment {environment : List (String × String)} {s : Settings}
    (valid : ofEnvironment environment = .ok s) : ∃ n, levelOf? s.logLevel = some n := by
  simp only [ofEnvironment, ofFields, also_eq_ok_iff] at valid
  obtain ⟨_, _, ⟨_, _, ⟨_, _, ⟨_, _, ⟨_, _, ⟨_, level, dialect, read, rfl⟩, _, rfl⟩, _, rfl⟩, _,
    rfl⟩, _, rfl⟩, _, rfl⟩ := valid
  cases named : withDefault (.plain "dialect") string "postgres" _ with
  | error ps =>
    rw [named] at dialect
    cases dialect
  | ok name =>
    rw [named] at dialect
    obtain rfl := Except.ok.inj dialect
    exact known_of_withDefault read

end Settings

namespace Logging

/-- An effect on a logger, which may fail; what happened before stays. -/
abbrev Effect (α : Type) := ExceptT LevelFault (StateM Logger) α

namespace Logger

/-- The name of the level that a call asks for: without one, it is that of the settings. -/
def nameFor (settings : Checked Settings) (level : Option String) : Effect String :=
  match givenName? level with
  | some name => pure name
  | none =>
    match settings with
    | .ok s => pure s.logLevel
    | .error ps => throw (.settings ps)

def setLevel (name : String) : Effect Unit :=
  match levelOf? name with
  | some n => modify fun l => { l with level := n }
  | none => throw .unknownLevel

/-- Attach a handler and hand no records on from now on, unless a handler is there. -/
def attach : Effect Unit := do
  if (← get).handlers == 0 then
    modify fun l => { l with handlers := l.handlers + 1 }
    modify fun l => { l with propagate := false }

def setUp (settings : Checked Settings) (level : Option String) : Effect Unit := do
  let name ← nameFor settings level
  setLevel name
  attach

variable {settings : Checked Settings} {s : Settings} {level : Option String} {l : Logger}

/-- A call as a step: what it comes to, and the logger behind it. -/
def call (settings : Checked Settings) (l : Logger) (level : Option String) :
    Except LevelFault Unit × Logger := (setUp settings level).run.run l

section Effects

variable {α β : Type}

theorem bind_run (x : Effect α) (f : α → Effect β) (l : Logger) :
    (x >>= f).run.run l =
      match x.run.run l with
      | (.ok a, l') => (f a).run.run l'
      | (.error e, l') => (.error e, l') := by
  rw [ExceptT.run_bind, StateT.run_bind]
  obtain ⟨result, l'⟩ := x.run.run l
  cases result <;> rfl

theorem setLevel_run (name : String) (l : Logger) :
    (setLevel name).run.run l =
      match levelOf? name with
      | some n => (.ok (), { l with level := n })
      | none => (.error .unknownLevel, l) := by
  unfold setLevel
  cases levelOf? name <;> rfl

theorem attach_run (l : Logger) :
    attach.run.run l = (.ok (), if l.handlers == 0 then ⟨l.level, 1, false⟩ else l) := by
  obtain ⟨level, handlers, propagate⟩ := l
  cases handlers <;> rfl

/-- An unknown level fails in front of the first effect. -/
theorem setLevel_attach_run (name : String) (l : Logger) :
    (setLevel name >>= fun _ => attach).run.run l =
      match l.configure? name with
      | some l' => (.ok (), l')
      | none => (.error .unknownLevel, l) := by
  rw [bind_run, setLevel_run, configure?]
  cases levelOf? name with
  | some n => exact attach_run _
  | none => rfl

/-- The effects of a call together are what the logger is configured to, or nothing. -/
theorem call_eq_configure (settings : Checked Settings) (l : Logger) (level : Option String) :
    call settings l level =
      match l.configure settings level with
      | .ok l' => (.ok (), l')
      | .error f => (.error f, l) := by
  unfold call setUp nameFor configure
  cases givenName? level with
  | some name =>
    refine (setLevel_attach_run name l).trans ?_
    dsimp only
    cases l.configure? name <;> rfl
  | none =>
    cases settings with
    | error ps => rfl
    | ok s =>
      refine (setLevel_attach_run s.logLevel l).trans ?_
      dsimp only
      cases l.configure? s.logLevel <;> rfl

end Effects

/-- The level that a call asks for, if there is one of this name. -/
def asked (s : Settings) (level : Option String) : Option Nat :=
  levelOf? ((givenName? level).getD s.logLevel)

/-- A logger with the last level that was set. Without one, it is new. -/
def tuned : Option Nat → Logger
  | some n => ⟨n, 1, false⟩
  | none => {}

/-- Only the level of the logger matters to what a call makes of it. -/
theorem call_tuned (s : Settings) (last : Option Nat) (level : Option String) :
    call (.ok s) (tuned last) level =
      match asked s level with
      | some n => (.ok (), tuned (some n))
      | none => (.error .unknownLevel, tuned last) := by
  have configured (name : String) :
      (tuned last).configure? name = (levelOf? name).map fun n => tuned (some n) := by
    cases last <;> rfl
  rw [call_eq_configure, configure, asked]
  cases givenName? level with
  | some name =>
    simp only [configured, Option.getD_some]
    cases levelOf? name <;> rfl
  | none =>
    simp only [configured, Option.getD_none]
    cases levelOf? s.logLevel <;> rfl

/-- Settings that hold have a level, so only a name of the call itself can be unknown. -/
theorem asked_eq_none_iff (known : ∃ n, levelOf? s.logLevel = some n) :
    asked s level = none ↔ ∃ name, level = some name ∧ name ≠ "" ∧ levelOf? name = none := by
  obtain ⟨n, known⟩ := known
  unfold asked givenName?
  cases level with
  | none => simp [known]
  | some name => by_cases empty : name = "" <;> simp [empty, known]

/-- The logger behind calls on a new one, those that fail included. -/
def after (settings : Checked Settings) (calls : List (Option String)) : Logger :=
  calls.foldl (fun l level => (call settings l level).2) {}

theorem after_eq_tuned (s : Settings) (calls : List (Option String)) :
    after (.ok s) calls = tuned (calls.filterMap (asked s)).getLast? := by
  induction calls using List.reverseRecOn with
  | nil => rfl
  | append_singleton calls level ih =>
    have last :
        after (.ok s) (calls ++ [level]) = (call (.ok s) (after (.ok s) calls) level).2 := by
      rw [after, List.foldl_append]
      rfl
    rw [last, ih, call_tuned, List.filterMap_append]
    cases found : asked s level <;> simp [found]

/-- With settings that hold, calls leave a new logger as it is if none of them asks for a known
level. Otherwise it has one handler, hands no records on and has the last known level. A call fails
just when it names an unknown level, and then it changes nothing. -/
theorem after_calls {environment : List (String × String)} {s : Settings}
    (valid : Settings.ofEnvironment environment = .ok s) (calls : List (Option String))
    (level : Option String) :
    (after (Settings.ofEnvironment environment) calls =
      match (calls.filterMap (asked s)).getLast? with
      | some n => ⟨n, 1, false⟩
      | none => {}) ∧
    (asked s level = none ↔ ∃ name, level = some name ∧ name ≠ "" ∧ levelOf? name = none) ∧
    call (Settings.ofEnvironment environment)
        (after (Settings.ofEnvironment environment) calls) level =
      match asked s level with
      | some n => (.ok (), ⟨n, 1, false⟩)
      | none => (.error .unknownLevel, after (Settings.ofEnvironment environment) calls) := by
  rw [valid]
  have state := after_eq_tuned s calls
  refine ⟨?_, ?_, ?_⟩
  · rw [state]
    cases (calls.filterMap (asked s)).getLast? <;> rfl
  · exact asked_eq_none_iff (Settings.known_of_ofEnvironment valid)
  · rw [state, call_tuned]
    cases asked s level <;> rfl

theorem after_calls_mixed :
    Settings.ofEnvironment [("SQLFLOW_LOG_LEVEL", "error")] = .ok { logLevel := "ERROR" } ∧
      after (Settings.ofEnvironment [("SQLFLOW_LOG_LEVEL", "error")])
        [some "chatty", none, some "info", some "loud"] = ⟨20, 1, false⟩ ∧
      call (Settings.ofEnvironment [("SQLFLOW_LOG_LEVEL", "error")]) ⟨20, 1, false⟩ (some "all") =
        (.error .unknownLevel, ⟨20, 1, false⟩) := by
  have valid : Settings.ofEnvironment [("SQLFLOW_LOG_LEVEL", "error")] =
      .ok { logLevel := "ERROR" } := by decide +kernel
  obtain ⟨state, _, unknown⟩ :=
    after_calls valid [some "chatty", none, some "info", some "loud"] (some "all")
  have last : ([some "chatty", none, some "info", some "loud"].filterMap
      (asked { logLevel := "ERROR" })).getLast? = some 20 := by decide +kernel
  have refused : asked { logLevel := "ERROR" } (some "all") = none := by decide +kernel
  rw [last] at state
  rw [state, refused] at unknown
  exact ⟨valid, state, unknown⟩

end Logger

end Logging

end QueryFlow
