import ContractBuild.Command.Catalog
import ContractBuild.Command.Compile
import ContractBuild.Command.Resolve
import ContractBuild.Text.Alphanumeric

/-!
# The program

`cli` of the program and its `LazyGroup`: the options of the program itself, then the name of a
command, then the arguments of the command. The settings are read before the command is looked up,
so invalid settings are told first.

A session has two stages, and both are wrapped so that no usage error keeps its own exit code:
`start` reads the options of the program (`LazyGroup.make_context`), and `invoke` looks the
command up and runs it (`LazyGroup.invoke`). Between them nothing happens.

Among the options version and help are eager: the one that stands first is answered before the
others are looked at, except that colours are switched off by then. A name of a command that is
not known and looks like an option is read as one, which may read the settings a second time
(`dispatch`).

The two commands are known here by their names. That they are loaded when they are first asked
for, and are the ones that their references name, is the subject of `Command.Catalog`.
-/

namespace ContractBuild.Command.Program

/-- The options of the program. -/
inductive Key where
  | version
  | noColor
  | logLevel
  | help
  deriving DecidableEq, Repr

def logLevelOption : OptionSpec Key := { key := .logLevel, long := "log-level", takesValue := true }

def options : List (OptionSpec Key) := [
  { key := .version, long := "version" },
  { key := .noColor, long := "no-color" },
  logLevelOption,
  { key := .help, long := "help" }]

/-- The line that tells the version. -/
def versionLine : String := "nccs, version 0.1.0"

/-- The log levels that can be chosen. -/
def logLevels : List String := ["debug", "info", "warning", "error", "critical"]

/-- Chooses a log level in any letter case. -/
def chooseLogLevel (s : String) : Except UsageError String :=
  let name := Settings.lowerCase s
  if logLevels.contains name then .ok name
  else .error (.badValue logLevelOption.names (.notAChoice s logLevels))

/-- Ends the session if version or help is asked for, whichever comes first. -/
def answerEager (keys : List Key) : Commanding Unit :=
  match keys.find? fun k => k = .version || k = .help with
  | some .version => do
    Commanding.print (.plain ⟨.out, versionLine⟩)
    Commanding.interrupt .version
  | some _ => Commanding.help Help.program
  | none => pure ()

/-- Reads the options of the program and puts them in force. The result is the rest of the
arguments. -/
def readOptions (context : Context) (args : List String) : Commanding (List String) := do
  let as ← Commanding.ofUsage (Arguments.read options false args)
  if as.has .noColor then modify fun s => { s with noColor := true }
  answerEager as.keys
  let level? ← Commanding.ofUsage ((as.value? .logLevel).mapM chooseLogLevel)
  let settings ← Commanding.settings context.host
  match Log.Setup.of { level := level?.getD settings.logLevel, json := settings.logJson } with
  | .ok log => modify fun s => { s with log }
  | .error m => Commanding.interrupt (.failure (.misuse m))
  return as.others

/-- A command by its name. -/
def command? (name : String) : Option (Context → List String → Commanding Unit) :=
  match name with
  | "compile" => some Compile.command
  | "resolve" => some Resolve.command
  | _ => none

/-- Whether a name may be meant as an option: it starts with a character that is neither a letter
nor a digit of any script. -/
def looksLikeOption (name : String) : Bool :=
  match name.toList with
  | c :: _ => !Text.isAlphanumeric c
  | [] => false

/-- Runs the command that the arguments name. An unknown name that looks like an option is told as
an option would be. -/
def dispatch (context : Context) : List String → Commanding Unit
  | [] => Commanding.interrupt (.misread (some .missingCommand))
  | name :: args =>
    match command? name with
    | some command => command context args
    | none => do
      if looksLikeOption name then
        let _ ← readOptions context (name :: args)
      Commanding.interrupt (.misread (some (.noSuchCommand name)))

/-- The first stage: reads the options of the program. The result is the rest of the arguments. -/
def start (context : Context) (args : List String) : Commanding (List String) :=
  Commanding.asInputError do
    if args.isEmpty then Commanding.help Help.program (.misread none)
    readOptions context args

/-- The second stage: runs the command. -/
def invoke (context : Context) (args : List String) : Commanding Unit :=
  Commanding.asInputError (dispatch context args)

/-- Reads the arguments and runs what they ask for. -/
def session (context : Context) (args : List String) : Commanding Unit := do
  invoke context (← start context args)

/-- Shows the error with which a session ends. -/
def showError : Except Interruption Unit → List Message
  | .error (.error e) => [.marked .error e.message]
  | _ => []

/-- Runs the program on a disk. -/
def run (context : Context) (disk : Disk) (args : List String) :
    Except Interruption Unit × Session :=
  let (ending, s) := (session context args).runFrom { disk }
  (ending, { s with messages := s.messages ++ showError ending })

end ContractBuild.Command.Program
