import ContractBuild.Document.Value
import ContractBuild.Failure.Basic
import ContractBuild.Mode

/-!
# Engines

The protocol `CompilationEngine` of the program. An engine does the compilation proper and is the
one part of a build that is not written here. It is called with what is to be compiled and the
options, and answers with a name, diagnostics, whether it succeeded, and a producer for each
artifact.

Nothing that an engine hands over has been checked: the name may be of any kind, the verdict
counts by whether it is a yes, and a producer gives a value of any kind or an error. What is
checked is checked where it is used, by the layout and by the contents of artifacts.

An engine is a function from calls to answers and has no effect on the disk. Its producers are
part of the answer, so calling one is a step of its own, which the writer takes one artifact at a
time.
-/

namespace ContractBuild

/-- What an engine is asked to compile. -/
inductive Engine.Input where
  | project (descriptor : Path)
  | sources (files : List Path)
  | text (source : String)
  deriving DecidableEq

/-- The name of the entry point that takes an input. -/
def Engine.Input.entryPoint : Engine.Input → String
  | project _ => "project"
  | sources _ => "sources"
  | text _ => "text"

/-- The name under which an engine has the entry point for an input. -/
def Engine.Input.method : Engine.Input → String
  | project _ => "compile_project"
  | sources _ => "compile_sources"
  | text _ => "compile_source_text"

/-- One call of an engine. -/
structure Engine.Call where
  input : Engine.Input
  options : Options
  deriving DecidableEq

/-- The answer of an engine. -/
structure Compiled where
  /-- What the engine calls the contract, null or an empty text if nothing. -/
  contractName : Value
  diagnostics : List Diagnostic
  /-- What the engine tells about success. -/
  verdict : Document
  /-- Produces an artifact. -/
  produce : Artifact → Except Failure Value

/-- Whether a compilation succeeded: the engine's verdict counts as yes. -/
def Compiled.success (r : Compiled) : Bool := r.verdict.isYes

structure Engine where
  /-- The name of the engine's type, for the log. -/
  typeName : String
  compile : Engine.Call → Except Failure Compiled

/-- Something of a type without entry points in the place of an engine. -/
def Engine.impostor (typeName : String) : Engine where
  typeName
  compile call := .error (.misuse (.noEntryPoint typeName call.input.method))

end ContractBuild
