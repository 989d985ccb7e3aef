import ContractBuild.Engine.Universe

/-!
# Modules of the program

The modules that the commands of this program are loaded from, with everything that they hold.
-/

namespace ContractBuild.Command.Modules

/-- A function with parameters that have no default. -/
def functionNamed (name : String) (parameters : List String) : String × Attribute :=
  (name, .uncallable (Misuse.missingArguments name parameters).message)

/-- A class whose objects are made from arguments. -/
def typeNamed (name : String) (parameters : List String) : String × Attribute :=
  (name, .uncallable (Misuse.missingArguments (name ++ ".__init__") parameters).message)

/-- An attribute that is a module. -/
def moduleNamed (name : String) : String × Attribute := (name, .value "module")

/-- The functions that print messages. -/
def printers : List (String × Attribute) :=
  ["success", "error", "warning", "info"].map fun name => functionNamed name ["message"]

def anyType : String × Attribute := ("Any", .uncallable "Any cannot be instantiated")

def consoleChannel : String × Attribute := ("ConsoleChannel", .callable "ConsoleChannel")

def setNoColor : String × Attribute := functionNamed "set_no_color" ["no_color"]

def version : String × Attribute := ("__version__", .value "str")

/-- The top of the program. -/
def top : Module where
  name := "nccs_cli"
  isPackage := true
  attributes :=
    [version, moduleNamed "main", moduleNamed "errors", moduleNamed "output",
      moduleNamed "commands"] ++ Module.ofFile

/-- The command line as a whole. -/
def program : Module where
  name := "nccs_cli.main"
  attributes := [
    ("cli", .object (.command "cli")), version, setNoColor, anyType,
    moduleNamed "importlib", moduleNamed "click", moduleNamed "rclick",
    ("LAZY_COMMANDS", .value "dict"),
    ("LazyGroup", .callable "LazyGroup"),
    functionNamed "_as_input_error" ["err"],
    functionNamed "_disable_color" ["ctx", "param", "value"],
    functionNamed "_configure_logging" ["ctx", "param", "value"]] ++ Module.ofFile

/-- The errors of commands. -/
def errors : Module where
  name := "nccs_cli.errors"
  attributes := [
    ("__all__", .value "list"), moduleNamed "click",
    ("EXIT_FAILURE", .value "int"), ("EXIT_NO_SOURCE", .value "int"),
    ("EXIT_SUCCESS", .value "int"), ("OPTION_FLAGS", .value "dict"),
    ("TYPE_CHECKING", .value "bool"),
    ("Mapping", .uncallable ("Can't instantiate abstract class Mapping with abstract methods "
      ++ "__getitem__, __iter__, __len__")),
    ("NoReturn", .uncallable "Cannot instantiate typing.NoReturn"),
    ("PydanticValidationError", .uncallable "No constructor defined for ValidationError"),
    functionNamed "error" ["message"],
    typeNamed "CLIError" ["message"],
    functionNamed "format_pydantic_error" ["err"],
    functionNamed "handle_validation_error" ["err"],
    functionNamed "handle_settings_error" ["err"],
    functionNamed "exit_for_outcome" ["outcome"]] ++ Module.ofFile

/-- The console. -/
def output : Module where
  name := "nccs_cli.output"
  attributes := printers ++ [
    anyType, consoleChannel, setNoColor, moduleNamed "os",
    ("Console", .callable "Console"), ("create_console", .callable "Console"),
    ("console", .value "Console"), ("err_console", .value "Console"),
    ("_force_no_color", .value "bool"),
    functionNamed "escape" ["markup"]] ++ Module.ofFile

/-- The package of the commands. -/
def commands : Module where
  name := "nccs_cli.commands"
  isPackage := true
  attributes :=
    [("__all__", .value "list"), moduleNamed "compile", moduleNamed "resolve"] ++ Module.ofFile

/-- The compile command. -/
def compile : Module where
  name := "nccs_cli.commands.compile"
  attributes := [
    ("compile_cmd", .object (.command "compile")), consoleChannel, moduleNamed "click",
    ("dataclass", .callable "function"), ("Path", .callable "PosixPath"),
    typeNamed "CompileOptions" ["paths", "output_path", "contract_name", "emit_debug_info",
      "emit_assembly", "no_optimize", "no_inline", "address_version", "engine_ref"],
    functionNamed "_run_compile" ["opts", "engine"]] ++ Module.ofFile

/-- The resolve command. -/
def resolve : Module where
  name := "nccs_cli.commands.resolve"
  attributes := [
    ("resolve", .object (.command "resolve")), moduleNamed "click",
    functionNamed "info" ["message"], functionNamed "success" ["message"]] ++ Module.ofFile

def all : Universe := [top, program, errors, output, commands, compile, resolve]

end ContractBuild.Command.Modules
