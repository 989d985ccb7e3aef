import ContractBuild.Document.Value
import ContractBuild.Options

/-!
# Layout of artifacts

`OutputLayout` of the program, and `resolve_output_folder`. A compilation gives up to four
artifacts, each a file in the output folder named after the contract. The executable and the
manifest are always written, the debug archive and the assembly listing on request;
`Artifact.plan` lists them in the order in which they are written, and everything about the order
of writing refers to it.

A layout carries that its name is not empty. That is all that is asked of a name apart from its
encoding: it is joined to the folder as a path, so a name with slashes leads to other folders, and
a name with the null character makes paths that nobody can open.

There are two ways to a layout. `check` reads one from the fields of a record, and reports all
that is wrong with them. `ofName` is the layout that the writer makes of a folder and of a name of
any kind, since an engine may call a contract anything: what is no text, is empty or cannot be
encoded breaks a rule of the field `contract_name` (`checkName`).
-/

namespace ContractBuild

inductive Artifact where
  | executable
  | manifest
  | debugInfo
  | assembly
  deriving DecidableEq, Repr

namespace Artifact

/-- What follows the contract name in the name of an artifact's file. -/
def suffix : Artifact → String
  | executable => ".nef"
  | manifest => ".manifest.json"
  | debugInfo => ".nefdbgnfo"
  | assembly => ".asm"

/-- The artifacts that options ask for, in the order in which they are written. -/
def plan (options : Options) : List Artifact :=
  [executable, manifest]
    ++ (if options.emitDebugInfo then [debugInfo] else [])
    ++ (if options.emitAssembly then [assembly] else [])

end Artifact

/-- An output folder, the name of the contract and the files written. -/
structure Layout where
  folder : Path
  contractName : String
  named : contractName ≠ ""
  /-- The files written, in order. -/
  files : List Path := []
  deriving DecidableEq

namespace Layout

/-- The file of an artifact. -/
def path (l : Layout) (a : Artifact) : Path := l.folder.joinText (l.contractName ++ a.suffix)

/-- The name of the single entry of the debug archive. -/
def debugEntryName (l : Layout) : String := l.contractName ++ ".debug.json"

open Validation

/-- Checks the fields of a layout. -/
def ofMembers (ms : List (Document × Document)) : Checked Layout :=
  (fun folder name files => { folder, contractName := name.1, named := name.2, files })
    <$> required ms "folder" Validation.path
    <*> required ms "contract_name" nonemptyText
    <*> optional ms "files" [] (sequence Validation.path)
    <* noOthers ms ["folder", "contract_name", "files"]

/-- A name that a layout takes: a text that is not empty and can be encoded. That it is not empty is
what the length of the field asks for, and a field with a bound on its length reads the text as
UTF-8 first. -/
def checkName : Value → Checked { s : String // s ≠ "" }
  | .document d => nonemptyText d
  | .loose _ => .broken .textEncoding

/-- The layout under a name of any kind before anything is written. -/
def ofName (folder : Path) (name : Value) : Checked Layout :=
  ((checkName name).under (.field "contract_name")).map fun n =>
    { folder, contractName := n.1, named := n.2 }

/-- A layout read from a dictionary of its fields. -/
def check : Check Layout := record "OutputLayout" ofMembers

end Layout

/-- The folder of artifacts in a source folder. -/
def defaultOutput : Path := Path.ofText "bin/sc"

/-- The destination of artifacts: the output directory if one is set, else `bin/sc` in the
fallback folder. -/
def Options.outputFolder (options : Options) (fallback : Path) : Path :=
  options.outputDirectory.getD (fallback.join defaultOutput)

end ContractBuild
