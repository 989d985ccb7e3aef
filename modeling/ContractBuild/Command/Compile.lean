import ContractBuild.Command.Help
import ContractBuild.Command.Session
import ContractBuild.Text.Digit

/-!
# The compile command

`compile_cmd` and `_run_compile` of the program: reads the options of a compilation, completes
them by the settings, and runs the build.

* `readRequest` reads the arguments. Only options whose values can be wrong by themselves are
  checked here, the address version and the output directory; everything else waits for the next
  step.
* `job` reads the settings and makes the build of a request: `Request.members` are the fields of
  the compiler options, whose check reports all issues at once, and `Request.engineSource` is the
  choice of the engine.
* `build` runs it, with the working directory as the base of relative paths, and ends the session
  by its outcome.

The engine is the one given from outside, or else the first that is named by the arguments or the
settings. An empty name counts as none, except in the settings: only without any name there the
least registered entry point is taken.

The fields of a request are documents, since a caller of `_run_compile` may put anything into
them.
-/

namespace ContractBuild.Command.Compile

/-- The options of the command. -/
inductive Key where
  | help
  | output
  | contractName
  | debug
  | assembly
  | noOptimize
  | noInline
  | addressVersion
  | engine
  deriving DecidableEq, Repr

def outputOption : OptionSpec Key :=
  { key := .output, long := "output", short := some 'o', takesValue := true }

def addressVersionOption : OptionSpec Key :=
  { key := .addressVersion, long := "address-version", takesValue := true }

def options : List (OptionSpec Key) := [
  outputOption,
  { key := .contractName, long := "contract-name", takesValue := true },
  { key := .debug, long := "debug", short := some 'd' },
  { key := .assembly, long := "assembly" },
  { key := .noOptimize, long := "no-optimize" },
  { key := .noInline, long := "no-inline" },
  addressVersionOption,
  { key := .engine, long := "engine", takesValue := true },
  { key := .help, long := "help" }]

/-- What the command is asked for. The values of options are checked when the command runs. -/
structure Request where
  paths : List String := []
  /-- The output directory; an empty one counts as none. -/
  output : Document := .null
  contractName : Document := .null
  debug : Document := .bool false
  assembly : Document := .bool false
  noOptimize : Document := .bool false
  noInline : Document := .bool false
  /-- The address version; without one the settings decide. -/
  addressVersion : Document := .null
  /-- The engine or its name; an empty name counts as none. -/
  engine : Document := .null

/-- A text that is not empty. -/
def nonempty? : Option String → Option String
  | some s => if s = "" then none else some s
  | none => none

namespace Request

/-- The output directory, if there is one. -/
def outputDirectory (r : Request) : Except Misuse Document :=
  match r.output with
  | .str s => .ok (if s = "" then .null else .str s)
  | d => if d.isYes then .error (.notPath d.kindName) else .ok .null

/-- The fields of the compiler options. -/
def members (r : Request) (settings : Settings) : Except Misuse (List (Document × Document)) := do
  return [
    (.str "output_directory", ← r.outputDirectory),
    (.str "contract_name", r.contractName),
    (.str "emit_debug_info", r.debug),
    (.str "emit_assembly", r.assembly),
    (.str "disable_optimization", r.noOptimize),
    (.str "disable_inlining", r.noInline),
    (.str "address_version",
      match r.addressVersion with
      | .null => .int settings.addressVersion.toNat
      | v => v)]

/-- The engine that the request itself names, or else the settings. -/
def namedEngine (r : Request) (settings : Settings) : Engine.Source :=
  match r.engine with
  | .str s => .reference (nonempty? (some s) <|> settings.engine)
  | d => if d.isYes then .given (Engine.impostor d.kindName) else .reference settings.engine

/-- Where the engine of a compilation comes from. -/
def engineSource (r : Request) (given : Option Engine.Source) (settings : Settings) :
    Engine.Source :=
  match given with
  | some (.given e) => .given e
  | some (.reference ref) =>
    match nonempty? ref with
    | some s => .reference (some s)
    | none => r.namedEngine settings
  | none => r.namedEngine settings

end Request

/-- The build that is asked for. -/
def job (context : Context) (r : Request) : Commanding Build.Job := do
  let settings ← Commanding.settings context.host
  match Options.ofMembers (← Commanding.ofExcept ((r.members settings).mapError .misuse)) with
  | .invalid issues => Commanding.interrupt (.error (invalidOptions issues))
  | .valid options =>
    return { paths := r.paths, options, engine := r.engineSource context.engine settings }

/-- Runs a build, which ends the session unless it succeeds. -/
def build (context : Context) (j : Build.Job) : Commanding Unit := do
  match ← Commanding.ofRunning (Build.run context.host context.registry j) with
  | .error f => Commanding.interrupt (.failure f)
  | .ok outcome =>
    match ofOutcome outcome with
    | .ok () => return
    | .error e => Commanding.interrupt (.error e)

/-- Runs the build that is asked for. -/
def run (context : Context) (r : Request) : Commanding Unit := do
  build context (← job context r)

/-- The request that fields ask for. A field that is left out asks for the default. -/
def Request.ofFields (fields : List (String × Document)) : Except Misuse Request := do
  let signature : Signature :=
    { name := "CompileOptions.__init__", filled := ["self"],
      optional := ["paths", "output_path", "contract_name", "emit_debug_info", "emit_assembly",
        "no_optimize", "no_inline", "address_version", "engine_ref"] }
  let values ← signature.bind [] fields
  let value (name : String) (default : Document) : Document := (values.lookup name).getD default
  let default : Request := {}
  return {
    paths := ← (value "paths" (.list [])).pathTexts
    output := value "output_path" default.output
    contractName := value "contract_name" default.contractName
    debug := value "emit_debug_info" default.debug
    assembly := value "emit_assembly" default.assembly
    noOptimize := value "no_optimize" default.noOptimize
    noInline := value "no_inline" default.noInline
    addressVersion := value "address_version" default.addressVersion
    engine := value "engine_ref" default.engine }

/-! ## Reading the arguments -/

/-- The whole number that a text writes in digits of any script, with a sign and blanks around it.
Texts of more than 4300 digits are not read. -/
def number? (s : String) : Option Int :=
  let cs := Text.trim Text.isSpace s.toList
  if 4300 < (cs.filter fun c => (Text.digitValue? c).isSome).length then none
  else
    match cs with
    | '+' :: rest => (Text.number? Text.digitValue? rest).map fun n => (n : Int)
    | '-' :: rest => (Text.number? Text.digitValue? rest).map fun n => -(n : Int)
    | _ => (Text.number? Text.digitValue? cs).map fun n => (n : Int)

/-- The address version that a text gives. -/
def addressVersion (s : String) : Except UsageError UInt8 :=
  match number? s with
  | none => .error (.badValue addressVersionOption.names (.notANumber s))
  | some n =>
    if 0 ≤ n ∧ n ≤ 255 then .ok n.toNat.toUInt8
    else .error (.badValue addressVersionOption.names (.notAByte n))

/-- Checks that an output directory is no file. -/
def checkOutput (context : Context) (disk : Disk) (s : String) : Except Interruption Unit :=
  match disk.status context.host.cwd (.ofText s) with
  | .ok (.file _) => .error (.misread (some (.badValue outputOption.names (.notADirectory s))))
  | .error .nul => .error (.failure .nulInPath)
  | _ => .ok ()

/-- Checks the value of one option. -/
def checkOption (context : Context) (disk : Disk) (as : Arguments Key) (key : Key) :
    Except Interruption Unit :=
  match key, as.value? key with
  | .output, some s => checkOutput context disk s
  | .addressVersion, some s =>
    match addressVersion s with
    | .ok _ => .ok ()
    | .error e => .error (.misread (some e))
  | _, _ => .ok ()

/-- The request that arguments make. -/
def request (as : Arguments Key) (paths : List String) : Request where
  paths
  output := Document.ofOption .str (as.value? .output)
  contractName := Document.ofOption .str (as.value? .contractName)
  debug := .bool (as.has .debug)
  assembly := .bool (as.has .assembly)
  noOptimize := .bool (as.has .noOptimize)
  noInline := .bool (as.has .noInline)
  addressVersion :=
    match (as.value? .addressVersion).map addressVersion with
    | some (.ok v) => .int v.toNat
    | _ => .null
  engine := Document.ofOption .str (as.value? .engine)

/-- Reads the arguments. Options are checked in the order in which they first occur, the paths after
them. -/
def readRequest (context : Context) (args : List String) : Commanding Request := do
  let as ← Commanding.ofUsage (Arguments.read options true args)
  if as.has .help then Commanding.help Help.compile
  let disk := (← get).disk
  as.keys.forM fun key => ExceptT.mk (pure (checkOption context disk as key))
  return request as (← pathArguments as.others)

/-- Reads the arguments and runs the command. -/
def command (context : Context) (args : List String) : Commanding Unit := do
  run context (← readRequest context args)

end ContractBuild.Command.Compile
