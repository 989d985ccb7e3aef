import ContractBuild.Diagnostic
import ContractBuild.Layout

/-!
# Outcomes

`BuildOutcome` of the program: how a build ended. There is a status, a message for the user unless
it succeeded, the layout of the files written if it did, and what the engine had to say, which is
there as soon as the engine has answered.

The status decides the exit code of the process, and only the status of a missing source has the
code 2. Refusals know the status in which they end a build (`Refusal.status?`); the two sides
agree (`Refusal.exitCode_of_status?`).
-/

namespace ContractBuild

inductive Status where
  | succeeded
  | invalidInput
  | noSource
  | compilationFailed
  | ioFailure
  | engineUnavailable
  deriving DecidableEq, Repr

namespace Status

def name : Status → String
  | succeeded => "succeeded"
  | invalidInput => "invalid_input"
  | noSource => "no_source"
  | compilationFailed => "compilation_failed"
  | ioFailure => "io_failure"
  | engineUnavailable => "engine_unavailable"

def all : List Status :=
  [succeeded, invalidInput, noSource, compilationFailed, ioFailure, engineUnavailable]

/-- The exit code of the process: 0 for success, 2 when there was nothing to build, 1 for every
other failure. -/
def exitCode : Status → Nat
  | succeeded => 0
  | noSource => 2
  | _ => 1

end Status

structure Outcome where
  status : Status
  message : String := ""
  layout : Option Layout := none
  diagnostics : List Diagnostic := []
  deriving DecidableEq

namespace Outcome

def succeeded (o : Outcome) : Bool := o.status = .succeeded

def exitCode (o : Outcome) : Nat := o.status.exitCode

open Validation

def ofMembers (ms : List (Document × Document)) : Checked Outcome :=
  Outcome.mk
    <$> required ms "status" (oneOf (Status.all.map fun s => (s.name, s)))
    <*> optional ms "message" "" text
    <*> optional ms "layout" none (nullable Layout.check)
    <*> optional ms "diagnostics" [] (sequence Diagnostic.check)
    <* noOthers ms ["status", "message", "layout", "diagnostics"]

/-- An outcome read from a dictionary of its fields. -/
def check : Check Outcome := record "BuildOutcome" ofMembers

end Outcome

end ContractBuild
