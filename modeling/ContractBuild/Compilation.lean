import ContractBuild.Attempt

/-!
# Compilation

`CompilationDriver` and `effective_contract_name` of the program. A compilation hands its input to
the entry point of an engine that takes it: one for a project, one for sources, one for a text. A
directory must have been scanned before. Two records go to the log around the call.

An engine that is gone is a refusal (`callEngine`): an error of importing or of a connection, by
its own class or by one above it. Every other error of an engine goes through unchanged, and no
call is ever repeated.

A request of an unknown kind is part of the model (`Request.unknown`) because the driver has a
branch for it; no build makes one.

`effectiveName` is the name under which artifacts are written: the engine's own, else the
configured one, else the default of the mode. An engine may answer with a name of any kind. It is
taken if it counts as yes, and that it is a text shows only when the layout is made.
-/

namespace ContractBuild

/-- What a compilation is asked for: a mode, or a mode with an unknown tag. The latter has a `kind`
like every mode and is of a type that no entry point takes. -/
inductive Compilation.Request where
  | mode (m : Mode)
  | unknown (kind typeName : String)

namespace Compilation

/-- The kind of a request. -/
def Request.kind : Request → String
  | mode m => m.kind
  | unknown kind _ => kind

/-- How many files a request names. -/
def Request.fileCount : Request → Nat
  | mode (.target t) => t.fileCount
  | _ => 1

/-- The values that every record of a compilation has. -/
def boundFields (e : Engine) : List (String × Document) :=
  [("component", .str "compilation_driver"), ("engine", .str e.typeName)]

def startedRecord (e : Engine) (r : Request) (options : Options) : Log.Record where
  level := .info
  event := "compilation_started"
  logger := "nccs_core.driver"
  fields := boundFields e ++ [("mode", .str r.kind), ("file_count", .int r.fileCount),
    ("contract_name", (Value.ofOption options.contractName).shown),
    ("address_version", .int options.addressVersion.toNat)]

def finishedRecord (e : Engine) (r : Request) (c : Compiled) : Log.Record where
  level := .info
  event := "compilation_finished"
  logger := "nccs_core.driver"
  fields := boundFields e ++ [("mode", .str r.kind), ("success", c.verdict),
    ("contract_name", c.contractName.shown), ("diagnostics", .int c.diagnostics.length)]

/-- The refusal of an engine that is gone. -/
def unavailable : Refusal := .engine "Compilation engine is unavailable"

/-- Calls an engine, once, and turns errors that mean that it is gone into a refusal. The text of
such an error goes to the log; refusals and all other errors of the engine go through. -/
def callEngine (e : Engine) (c : Engine.Call) : Attempt Compiled := do
  match ← Attempt.call e c with
  | .ok r => return r
  | .error (.foreign x) =>
    if x.isUnavailable then Attempt.refuse unavailable x.details else Attempt.fail (.foreign x)
  | .error f => Attempt.fail f

/-- What the engine is called with. A directory and a request of an unknown kind have no entry
point; the first is refused before anything is recorded, the second after. -/
def Request.input? : Request → Except Misuse Engine.Input
  | mode (.directory _) => .error .directoryMode
  | mode (.target (.project p)) => .ok (.project p)
  | mode (.target (.sources s)) => .ok (.sources s.files)
  | mode (.inline text) => .ok (.text text)
  | unknown _ typeName => .error (.unknownMode typeName)

/-- Compiles what a request asks for, with the options as they were given. That the compilation is
finished is recorded whether it succeeded or not, and not at all if the engine did not answer. -/
def run (e : Engine) (r : Request) (options : Options) : Attempt Compiled := do
  if let .mode (.directory _) := r then Attempt.fail (.misuse .directoryMode)
  Attempt.record (startedRecord e r options)
  match r.input? with
  | .error m => Attempt.fail (.misuse m)
  | .ok input =>
    let c ← callEngine e ⟨input, options⟩
    Attempt.record (finishedRecord e r c)
    return c

/-- The name under which artifacts are written: the engine's, else the configured one, else the
default of the mode. -/
def effectiveName (engineName : Value) (options : Options) (m : Mode) : Value :=
  if engineName.isYes then engineName
  else .ofRaw ((Text.Raw.given options.contractName).getD m.defaultName)

end Compilation

end ContractBuild
