import ContractBuild.Bundle
import ContractBuild.Compilation
import ContractBuild.Document.Octets
import ContractBuild.Engine.Load

/-!
# Builds in memory

`compile_source` of the program: compiles source text into a bundle without touching the disk.
Executable and manifest are produced whether or not the compilation succeeded; the diagnostics
tell. The other producers are never called.

Everything here is an attempt, so that the disk stays as it is needs no proof. There is no outcome
either: a refusal goes to the caller, as every other failure does. The manifest becomes a field of
the bundle as a document, and is not serialized; that the build on disk writes just the serialized
form of it is shown in `Proofs.Build.Agreement`.
-/

namespace ContractBuild.Build

/-- The bundle of an engine's answer. -/
def bundle (r : Compiled) : Attempt Bundle := do
  let d ← Attempt.produce r .executable
  let executable ← Attempt.ofExcept (d.shown.octets.mapError .misuse)
  let d ← Attempt.produce r .manifest
  match (Bundle.checkManifest d.shown).under (.field "manifest") with
  | .valid manifest => return { executable, manifest, diagnostics := r.diagnostics }
  | .invalid issues => Attempt.fail (.invalid issues)

/-- Compiles source text. -/
def compileSource (registry : Engine.Registry) (source : String) (engine : Engine.Source)
    (options : Options) : Attempt Bundle := do
  let engine ← Engine.ofSource registry engine
  let r ← Compilation.run engine (.mode (.inline source)) options
  bundle r

/-- Compiles a value of any kind. What is no text is refused once there is an engine. -/
def compileValue (registry : Engine.Registry) (source : Document) (engine : Engine.Source)
    (options : Options) : Attempt Bundle :=
  match (Validation.text source).under (.field "text") with
  | .valid source => compileSource registry source engine options
  | .invalid issues => do
    let _ ← Engine.ofSource registry engine
    Attempt.fail (.invalid issues)

end ContractBuild.Build
