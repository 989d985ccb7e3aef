import ContractBuild.Document.Paths
import ContractBuild.Engine.Basic
import ContractBuild.Signature
import ContractBuild.Validation.Fields

/-!
# Canned engines

Engines that compile nothing and answer from a script, for trying out a build without a compiler
(`FakeEngine` and `UnreachableEngine` of the program's tests). What the script leaves open is
filled in: a name, a small executable, and documents made from the name under which the
compilation goes.

The concrete runs that accompany the theorems of this library use these engines, so that a witness
needs no engine of its own. A script is total, it has an answer or a failure for every call and
for every producer. One whose fields are themselves wrong has a `fault`, which every call ends in.

In the documents that a script makes of a loose name its halves stand written out (`Value.shown`).
-/

namespace ContractBuild

/-- The script of a canned engine. -/
structure Canned where
  /-- The name of the engine's type. -/
  typeName : String := "FakeEngine"
  contractName : Value := .str "Token"
  verdict : Document := .bool true
  diagnostics : List Diagnostic := []
  executable : Document := .bytes ("NEF3".toUTF8.data.toList ++ [0, 1, 2, 3])
  manifest : Document := .null
  debugInfo : Document := .null
  assembly : Value := .str "# Method Start main\n00 PUSHDATA1 48656C6C6F\n02 RET\n"
  /-- The failures of producers. -/
  failures : List (Artifact × Failure) := []
  /-- Whether a configured contract name replaces the name. -/
  renames : Bool := true
  /-- What is wrong with the script, so that it gives no answer. -/
  fault : Option Failure := none
  /-- The failure of every compilation. -/
  failure : Option Failure := none

namespace Canned

/-- The manifest of a contract. -/
def manifestOf (name : Document) : Document :=
  .ofFields [
    ("name", name),
    ("groups", .list []),
    ("features", .dict []),
    ("supportedstandards", .list []),
    ("abi", .ofFields [
      ("methods", .list [.ofFields [
        ("name", .str "main"),
        ("parameters", .list []),
        ("returntype", .str "String"),
        ("offset", .int 0),
        ("safe", .bool false)]]),
      ("events", .list [])]),
    ("permissions", .list [.ofFields [("contract", .str "*"), ("methods", .str "*")]]),
    ("trusts", .list []),
    ("extra", .null)]

/-- The debug information of a contract. -/
def debugInfoOf (name : Document) : Document :=
  .ofFields [
    ("hash", .str ("0x" ++ String.join (List.replicate 20 "ab"))),
    ("documents", .list [.str (name.display ++ ".cs")]),
    ("methods", .list [.ofFields [
      ("id", .str "0"),
      ("name", .str (name.display ++ ",main")),
      ("range", .str "0-5"),
      ("params", .list []),
      ("return", .str "String"),
      ("variables", .list []),
      ("sequence-points", .list [.str "0[0]12:9-12:31"])]]),
    ("events", .list [])]

/-- The one error of an unsuccessful compilation. -/
def failedDiagnostic (name message : Document) : Validation.Checked Diagnostic :=
  Diagnostic.ofMembers [(.str "severity", .str Severity.error.name), (.str "message", message),
    (.str "code", .str "CS1002"), (.str "location", .str (name.display ++ ".cs(3,14)"))]

/-- A script with a fault. -/
def faulty (f : Failure) : Canned := { fault := some f }

/-- The name and the message that a value holds, both of which may be missing. -/
def failedArguments (given : Document) : Except Misuse (Document × Document) := do
  let callable := "make_failed_result"
  let signature : Signature := { name := callable, optional := ["contract_name", "message"] }
  let args ← given.held.mapError fun _ =>
    .notArguments ("testing.fixtures.engine." ++ callable) given.kindName
  let values ← signature.bind args []
  return ((values.lookup "contract_name").getD (.str "Token"),
    (values.lookup "message").getD (.str "; expected"))

/-- The script of an unsuccessful compilation with one error, made from a name and a message. -/
def failed (given : Document) : Canned :=
  match failedArguments given with
  | .error m => faulty (.misuse m)
  | .ok (name, message) =>
    match failedDiagnostic name message with
    | .invalid issues => faulty (.invalid issues)
    | .valid d =>
      { contractName := name, verdict := .bool false, executable := .bytes []
        manifest := .dict [], diagnostics := [d] }

/-- The diagnostics that a value holds the fields of. -/
def diagnosticsOf (given : Document) : Except Failure (List Diagnostic) := do
  (← given.held.mapError .misuse).mapM (Validation.fromFields "Diagnostic" Diagnostic.check)

/-- The script of an engine whose service cannot be reached. -/
def unreachable : Canned where
  typeName := "UnreachableEngine"
  failure := some (.foreign {
    kind := "ConnectionError", message := "engine service refused connection" })

/-- What the script has for an artifact of a compilation that goes under `name`. -/
def value (c : Canned) (name : Value) : Artifact → Value
  | .executable => c.executable
  | .manifest =>
    match c.manifest with
    | .null => manifestOf name.shown
    | d => d
  | .debugInfo =>
    match c.debugInfo with
    | .null => debugInfoOf name.shown
    | d => d
  | .assembly => c.assembly

/-- The name under which a compilation goes. -/
def nameFor (c : Canned) (options : Options) : Value :=
  match c.renames, Text.Raw.given options.contractName with
  | true, some name => .ofRaw name
  | _, _ => c.contractName

/-- The answer of the script. -/
def answer (c : Canned) (options : Options) : Compiled where
  contractName := c.nameFor options
  diagnostics := c.diagnostics
  verdict := c.verdict
  produce a :=
    match c.failures.lookup a with
    | some f => .error f
    | none => .ok (c.value (c.nameFor options) a)

/-- The engine that follows a script. What is wrong with the script shows before the failure that
it asks for. -/
def engine (c : Canned) : Engine where
  typeName := c.typeName
  compile call :=
    match c.fault <|> c.failure with
    | some f => .error f
    | none => .ok (c.answer call.options)

end Canned

end ContractBuild
