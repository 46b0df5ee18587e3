import DicePool.Json.Basic

/-!
# Journal — what a run reports about itself

A run reports events, each with a level, a name and named values, in the order in which they happen.
-/

namespace DicePool

/-- How serious an event is. -/
inductive Severity where
  /-- Of interest when looking for a fault. -/
  | debug
  /-- The normal course of things. -/
  | info
  /-- Odd, but dealt with. -/
  | warning
  /-- Something failed. -/
  | error
  /-- Nothing works any more. -/
  | critical
deriving DecidableEq, Repr

/-- The name of a severity. -/
def Severity.name : Severity → String
  | .debug => "debug"
  | .info => "info"
  | .warning => "warning"
  | .error => "error"
  | .critical => "critical"

/-- The rank of a severity: more serious ones rank higher. -/
def Severity.rank : Severity → Nat
  | .debug => 10
  | .info => 20
  | .warning => 30
  | .error => 40
  | .critical => 50

/-- One event. -/
structure Event where
  /-- How serious it is. -/
  severity : Severity
  /-- Its name. -/
  name : String
  /-- What is known about it. -/
  fields : Named Json

namespace Event

/-- An event for those who look for a fault. -/
def debug (name : String) (fields : Named Json) : Event := ⟨.debug, name, fields⟩

/-- An event of the normal course. -/
def info (name : String) (fields : Named Json) : Event := ⟨.info, name, fields⟩

/-- An odd event. -/
def warning (name : String) (fields : Named Json) : Event := ⟨.warning, name, fields⟩

/-- A failure. -/
def error (name : String) (fields : Named Json) : Event := ⟨.error, name, fields⟩

end Event

/-- The events of a run, in order. -/
abbrev Journal := List Event

end DicePool
