import ContractBuild.Validation.Scalar

/-!
# Diagnostics

`Diagnostic` of the program: what an engine has to say about the sources, in one line each. The
line has the place, the severity with the diagnostic's code, and the message; a place or a code
that is missing or empty leaves no trace in it.

Diagnostics are shown in the order of the engine and never sorted or merged. Whether a build
failed is not read off them: an engine tells it separately (`Compiled.verdict`).
-/

namespace ContractBuild

inductive Severity where
  | hidden
  | info
  | warning
  | error
  deriving DecidableEq, Repr

/-- The name of a severity. -/
def Severity.name : Severity → String
  | hidden => "hidden"
  | info => "info"
  | warning => "warning"
  | error => "error"

/-- All severities, the mildest first. -/
def Severity.all : List Severity := [.hidden, .info, .warning, .error]

structure Diagnostic where
  severity : Severity
  message : String
  /-- An identifier such as `CS0103`. -/
  code : Option String := none
  /-- A place such as `Token.cs(12,5)`. -/
  location : Option String := none
  deriving DecidableEq, Repr

namespace Diagnostic

def isError (d : Diagnostic) : Bool := d.severity = .error

/-- A text that is given and not empty. -/
def given (s : Option String) : Option String := s.filter (· ≠ "")

/-- The line that shows a diagnostic: `location: severity code: message`, without the parts that
are missing or empty. -/
def text (d : Diagnostic) : String :=
  let place := match given d.location with
    | some l => l ++ ": "
    | none => ""
  let code := match given d.code with
    | some c => " " ++ c
    | none => ""
  place ++ d.severity.name ++ code ++ ": " ++ d.message

/-- How many diagnostics have the given severity. -/
def count (ds : List Diagnostic) (s : Severity) : Nat := ds.countP fun d => d.severity = s

open Validation

def checkSeverity : Check Severity := oneOf (Severity.all.map fun s => (s.name, s))

/-- Checks the fields of a diagnostic. -/
def ofMembers (ms : List (Document × Document)) : Checked Diagnostic :=
  Diagnostic.mk
    <$> required ms "severity" checkSeverity
    <*> required ms "message" Validation.text
    <*> optional ms "code" none (nullable Validation.text)
    <*> optional ms "location" none (nullable Validation.text)
    <* noOthers ms ["severity", "message", "code", "location"]

/-- A diagnostic read from a dictionary of its fields. -/
def check : Check Diagnostic := record "Diagnostic" ofMembers

end Diagnostic

end ContractBuild
