import ContractBuild.Engine.Canned
import ContractBuild.Engine.Universe

/-!
# Sample engines

The modules in which canned engines are found by reference, for trying out a build without any
compiler, together with what else these modules hold.
-/

namespace ContractBuild.Engine.Samples

/-- The engines, and the results and documents that they are made of. -/
def engineAttributes : List (String × Attribute) := [
  ("FakeEngine", .maker (.ok (.engine ({} : Canned).engine))),
  ("UnreachableEngine", .maker (.ok (.engine Canned.unreachable.engine))),
  ("FakeCompilationResult", .callable "FakeCompilationResult"),
  ("make_failed_result", .callable "FakeCompilationResult"),
  ("make_manifest",
    .uncallable "make_manifest() missing 1 required positional argument: 'contract_name'"),
  ("make_debug_info",
    .uncallable "make_debug_info() missing 1 required positional argument: 'contract_name'"),
  ("EngineCall",
    .uncallable ("EngineCall.__init__() missing 3 required positional arguments: "
      ++ "'entry_point', 'target', and 'options'"))]

/-- What the module of the engines uses itself. -/
def usedAttributes : List (String × Attribute) := [
  ("NEF_MAGIC", .value "bytes"),
  ("CompilerOptions", .callable "CompilerOptions"),
  ("Diagnostic", .maker ((Diagnostic.check (.dict [])).toExcept.map (fun _ => .other "Diagnostic")
    |>.mapError .invalid)),
  ("DiagnosticSeverity",
    .uncallable "EnumType.__call__() missing 1 required positional argument: 'value'"),
  ("Path", .callable "PosixPath"),
  ("dataclass", .callable "function"),
  ("field", .callable "Field"),
  ("Any", .uncallable "Any cannot be instantiated"),
  ("Callable", .uncallable ("Can't instantiate abstract class Callable with abstract method "
    ++ "__call__")),
  ("Sequence", .uncallable ("Can't instantiate abstract class Sequence with abstract methods "
    ++ "__getitem__, __len__"))]

/-- The modules. -/
def modules : Universe := [
  { name := "testing"
    isPackage := true
    attributes := ("fixtures", .value "module") :: Module.ofFile },
  { name := "testing.fixtures"
    isPackage := true
    attributes := ("engine", .value "module") :: ("__all__", .value "list") ::
      engineAttributes ++ Module.ofFile },
  { name := "testing.fixtures.engine"
    attributes := usedAttributes ++ engineAttributes ++ Module.ofFile }]

end ContractBuild.Engine.Samples
