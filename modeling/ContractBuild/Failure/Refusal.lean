import ContractBuild.Outcome

/-!
# Refusals

The error hierarchy of the program (`NccsError` and its subclasses): the errors by which the build
itself refuses to go on. Each carries a message that is safe to show and ends the build in a
status; technical details go to the log and nowhere else, which is why a refusal has no field for
them.

A refusal of no particular kind has no status. No stage of a build makes one, but an engine can
raise one, and it escapes then like any other error.
-/

namespace ContractBuild

inductive Refusal where
  /-- A refusal of no particular kind. -/
  | general (message : String)
  /-- A named input path is unusable. -/
  | input (message : String) (path : Option String)
  /-- A scanned directory holds neither a project descriptor nor a source file. -/
  | noSource (directory : String)
  /-- The engine reported an unsuccessful compilation. -/
  | compilation (message : String)
  /-- A folder or an artifact cannot be written. -/
  | unwritable (path : String)
  /-- The engine cannot be loaded or reached. -/
  | engine (message : String)
  deriving DecidableEq, Repr

namespace Refusal

/-- The refusal of a compilation that the engine reports as failed. -/
def failedCompilation : Refusal := compilation "Compilation failed."

/-- The message for the user. -/
def message : Refusal → String
  | general m | input m _ | compilation m | engine m => m
  | noSource directory => "No .cs file is found in \"" ++ directory ++ "\"."
  | unwritable path => "Cannot write to: " ++ path

/-- The status in which a refusal ends a build. A refusal of no particular kind has none. -/
def status? : Refusal → Option Status
  | general _ => none
  | input _ _ => some .invalidInput
  | noSource _ => some .noSource
  | compilation _ => some .compilationFailed
  | unwritable _ => some .ioFailure
  | engine _ => some .engineUnavailable

/-- The exit code that a refusal asks for. -/
def exitCode : Refusal → Nat
  | noSource _ => 2
  | _ => 1

/-- The name of a refusal's kind in the log. -/
def typeName : Refusal → String
  | general _ => "NccsError"
  | input _ _ => "InputValidationError"
  | noSource _ => "NoSourceFoundError"
  | compilation _ => "CompilationFailure"
  | unwritable _ => "ArtifactWriteError"
  | engine _ => "EngineUnavailableError"

end Refusal

end ContractBuild
