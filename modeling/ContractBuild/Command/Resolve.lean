import ContractBuild.Command.Help
import ContractBuild.Command.Session

/-!
# The resolve command

`resolve` of the program: shows what the compile command would compile, without compiling it. It
has the same reading of paths and the same resolving of inputs as that command, and no settings,
options or engine. A refusal ends it with the message and the exit code of the refusal itself,
since there is no build whose outcome could carry them.
-/

namespace ContractBuild.Command.Resolve

/-- The options of the command. -/
inductive Key where
  | help
  deriving DecidableEq, Repr

def options : List (OptionSpec Key) := [{ key := .help, long := "help" }]

/-- What is shown of a target: a headline, and a line for each source file. -/
def messages : Target → List Message
  | .project descriptor => [.marked .success ("Project " ++ descriptor.toText)]
  | .sources s =>
    .marked .success
        ("Source files in " ++ s.folder.toText ++ " (" ++ toString s.files.length ++ ")")
      :: s.files.map fun f => .plain ⟨.out, "  " ++ f.toText⟩

/-- Resolves paths and shows the result. -/
def run (context : Context) (paths : List String) : Commanding Unit := do
  let disk := (← get).disk
  match ← Commanding.ofRunning (Running.attempt (Sources.resolve context.host disk paths none)) with
  | .ok target => (messages target).forM Commanding.print
  | .error (.refused r) => Commanding.interrupt (.error ⟨r.message, r.exitCode⟩)
  | .error f => Commanding.interrupt (.failure f)

/-- Reads the arguments. -/
def readPaths (args : List String) : Commanding (List String) := do
  let as ← Commanding.ofUsage (Arguments.read options true args)
  if as.has .help then Commanding.help Help.resolve
  pathArguments as.others

/-- Reads the arguments and runs the command. -/
def command (context : Context) (args : List String) : Commanding Unit := do
  run context (← readPaths args)

end ContractBuild.Command.Resolve
