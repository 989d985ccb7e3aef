import ContractBuild.Artifact.Write
import ContractBuild.Compilation
import ContractBuild.Engine.Load
import ContractBuild.Report
import ContractBuild.Sources.Scan

/-!
# Builds

`build` of the program. A build resolves its inputs, loads the engine, compiles, reports the
diagnostics and writes the artifacts. A refusal at any stage ends it in an outcome of its own
status; the diagnostics are part of the outcome as soon as the engine has answered. The engine is
loaded only after the inputs resolve.

`run` is built from the stages in that order, and the types say which of them may do what:
`compile` is an attempt, so up to the answer of the engine neither the disk nor the channels
change; `deliver` is a run, because it creates folders and files.

`anchorOutput` makes a configured output directory absolute (`_anchor_output`), after the engine
has answered and only for the writer: the engine has been called with the directory as it was
given.

Failures that are no refusals escape from a build, and so do refusals of no particular kind, which
only an engine can raise (`conclude`). `Proofs.Build.Exceptions` has the list of them.
-/

namespace ContractBuild.Build

/-- What a build is asked for. -/
structure Job where
  /-- Input paths: files, a directory, a project, or none. -/
  paths : List String := []
  options : Options := {}
  engine : Engine.Source
  /-- The directory against which relative paths are taken, instead of the working directory. -/
  cwd : Option String := none

/-- Options whose output directory is absolute. Without an output directory nothing is asked of the
host, so a base that cannot be found does no harm then. -/
def anchorOutput (host : Host) (disk : Disk) (options : Options) (cwd : Option String) :
    Except Failure Options :=
  match options.outputDirectory with
  | none => .ok options
  | some p => do
    let base ← host.base disk cwd
    let p ← host.absolute p base
    return { options with outputDirectory := some p }

/-- The record of the end of a build. -/
def finishedRecord (s : Status) : Log.Record where
  level := .info
  event := "build_finished"
  logger := "nccs_core.pipeline"
  fields := [("status", .str s.name), ("exit_code", .int s.exitCode)]

/-- Resolves the inputs, loads the engine and compiles, on the disk as it is when the build begins.
-/
def compile (host : Host) (registry : Engine.Registry) (disk : Disk) (job : Job) :
    Attempt (Target × Compiled) := do
  let target ← Sources.resolve host disk job.paths job.cwd
  let engine ← Engine.ofSource registry job.engine
  let r ← Compilation.run engine (.mode (.target target)) job.options
  return (target, r)

/-- Writes the artifacts of what was compiled, under the folder that stands for the sources if no
output directory is set. After an unsuccessful compilation nothing is anchored, created or produced.
-/
def deliver (host : Host) (job : Job) (target : Target) (r : Compiled) : Running Layout := do
  if !r.success then Running.refuse .failedCompilation
  let options ← Running.attempt
    (Attempt.ofExcept (anchorOutput host (← get).disk job.options job.cwd))
  Artifact.write host r options target.folder
    (Compilation.effectiveName r.contractName job.options (.target target))

/-- Ends a build in a status. -/
def finish (o : Outcome) : Running Outcome := do
  Running.record (finishedRecord o.status)
  return o

/-- Ends a build after a refusal. A refusal of no particular kind is no outcome. -/
def conclude (r : Refusal) (ds : List Diagnostic) : Running Outcome :=
  match r.status? with
  | some status => finish { status, message := r.message, diagnostics := ds }
  | none => Running.fail (.refused r)

/-- Runs a build. What the engine had to say is reported before its verdict is looked at, and is
part of every outcome from then on. -/
def run (host : Host) (registry : Engine.Registry) (job : Job) : Running Outcome := do
  let disk := (← get).disk
  match ← Running.catchRefusal (Running.attempt (compile host registry disk job)) with
  | .error r => conclude r []
  | .ok (target, compiled) =>
    Report.report compiled.diagnostics
    match ← Running.catchRefusal (deliver host job target compiled) with
    | .error r => conclude r compiled.diagnostics
    | .ok l =>
      finish { status := .succeeded, layout := some l, diagnostics := compiled.diagnostics }

end ContractBuild.Build
