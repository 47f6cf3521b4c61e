import QueryFlow.Text.Case

/-!
Levels of log records, and the logger that lets records through from its level on.
-/

namespace QueryFlow.Logging

def levels : List (String × Nat) :=
  [("CRITICAL", 50), ("FATAL", 50), ("ERROR", 40), ("WARN", 30), ("WARNING", 30), ("INFO", 20),
   ("DEBUG", 10), ("NOTSET", 0)]

/-- The number of a level; its name may be in any letter case. -/
def levelOf? (name : String) : Option Nat := levels.lookup (Text.upper name)

/-- How grave a record is. -/
inductive Severity where
  | debug | info | warning | error
  deriving Repr, DecidableEq

def Severity.number : Severity → Nat
  | debug => 10
  | info => 20
  | warning => 30
  | error => 40

def Severity.name : Severity → String
  | debug => "DEBUG"
  | info => "INFO"
  | warning => "WARNING"
  | error => "ERROR"

/-- A record: the part of the program that speaks, how grave it is, and what it says. -/
structure Record where
  logger : String
  severity : Severity
  message : String
  deriving Repr, DecidableEq

/-- The record as a line, without a time in front. -/
def Record.line (r : Record) : String :=
  r.logger ++ " - " ++ r.severity.name ++ " - " ++ r.message

structure Logger where
  level : Nat := 0
  handlers : Nat := 0
  propagate : Bool := true
  deriving Repr, DecidableEq

/-- Set the level by its name and attach a handler, if none is there. An unknown name changes
nothing. -/
def Logger.configure? (l : Logger) (level : String) : Option Logger :=
  (levelOf? level).map fun n =>
    if l.handlers == 0 then ⟨n, 1, false⟩ else { l with level := n }

/-- The level from which on records are let through. Without a level of its own, the logger lets
warnings through. -/
def Logger.threshold (l : Logger) : Nat := if l.level == 0 then 30 else l.level

def Logger.passed (l : Logger) (records : List Record) : List Record :=
  records.filter fun r => l.threshold ≤ r.severity.number

end QueryFlow.Logging
