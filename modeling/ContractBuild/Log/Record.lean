import ContractBuild.Document.Basic

/-!
# Log records

The log tells what happened inside a run, with details that are not shown to the user. A record
has a level, the name of an event, the part of the program that wrote it, and named values.

Every record that the program writes is a definition beside the function that writes it (such as
`Sources.resolvedRecord`), with the event, the logger and the values that it has there. The text
of a log line, with its time and its colours, is left out.
-/

namespace ContractBuild.Log

inductive Level where
  | debug
  | info
  | warning
  | error
  | critical
  deriving DecidableEq, Repr

namespace Level

/-- The weight of a level; records below a threshold are dropped. -/
def weight : Level → Nat
  | debug => 10
  | info => 20
  | warning => 30
  | error => 40
  | critical => 50

/-- The level of the records that a call of some name writes. -/
def ofCall? : String → Option Level
  | "debug" => some debug
  | "info" => some info
  | "warning" | "warn" => some warning
  | "error" | "exception" => some error
  | "critical" | "fatal" => some critical
  | _ => none

def name : Level → String
  | debug => "debug"
  | info => "info"
  | warning => "warning"
  | error => "error"
  | critical => "critical"

end Level

structure Record where
  level : Level
  event : String
  /-- The part of the program that wrote the record. -/
  logger : String
  fields : List (String × Document)
  /-- What is known of the error on whose account the record was written. -/
  trace : Option String := none
  deriving Repr

/-- The trace of a record that was written on account of an error when there was none. -/
def noTrace : String := "NoneType: None"

/-- The record that a call of some name writes. -/
def Record.ofCall? (call event logger : String) : Option Record :=
  (Level.ofCall? call).map fun level =>
    { level, event, logger, fields := []
      trace := if call = "exception" then some noTrace else none }

/-- Whether a record passes a threshold. -/
def Record.passes (threshold : Nat) (r : Record) : Bool := threshold ≤ r.level.weight

end ContractBuild.Log
