import ContractBuild.Document.Display
import ContractBuild.Validation.Scalar

/-!
# What is compiled

The four modes of the program (`DirectoryMode`, `ProjectMode`, `FileListMode`,
`InlineSourceMode`), in two types. A `Target` is what a compilation reads from disk: a project
descriptor, or a list of source files, of which there is at least one. A `Mode` may also be a
directory that still has to be scanned, or source text that never touches the disk. Whatever needs
resolved inputs takes a target, so that no later stage has to say what it would do with a
directory.

`defaultName` is the name of the contract when nobody gives one: the stem of the descriptor, or
the name of the folder, or a fixed name where the folder has none, as the root. It is never empty
for a target that inputs resolved to.

`check` reads a mode from a record whose field `kind` tells the four apart. A record without that
field, or with another kind, is told as such, and the issues of the other fields stand below the
kind.
-/

namespace ContractBuild

/-- Source files compiled together, in order. -/
structure SourceFiles where
  files : List Path
  nonempty : files ≠ []
  /-- The folder that the files are taken from. -/
  folder : Path
  deriving DecidableEq

inductive Target where
  | project (descriptor : Path)
  | sources (s : SourceFiles)
  deriving DecidableEq

inductive Mode where
  | directory (path : Path)
  | target (t : Target)
  | inline (text : String)
  deriving DecidableEq

namespace Target

/-- The folder that stands for the sources. -/
def folder : Target → Path
  | project descriptor => descriptor.parent
  | sources s => s.folder

/-- How many files a target names. -/
def fileCount : Target → Nat
  | project _ => 1
  | sources s => s.files.length

end Target

namespace Mode

/-- The name of a mode's kind. -/
def kind : Mode → String
  | directory _ => "directory"
  | target (.project _) => "project"
  | target (.sources _) => "files"
  | inline _ => "inline"

/-- The contract name of sources that nothing else names. -/
def inlineName : String := "Contract"

/-- The contract name when neither the engine nor the options give one: the descriptor's stem, or
the name of the folder. -/
def defaultName : Mode → String
  | target (.project descriptor) => descriptor.stem
  | target (.sources s) => if s.folder.name = "" then inlineName else s.folder.name
  | directory path => if path.name = "" then inlineName else path.name
  | inline _ => inlineName

open Validation

/-- The names of the kinds, in the order in which messages list them. -/
def kinds : List String := ["directory", "project", "files", "inline"]

def checkDirectory (ms : List (Document × Document)) : Checked Mode :=
  Mode.directory <$> required ms "path" path <* noOthers ms ["kind", "path"]

def checkProject (ms : List (Document × Document)) : Checked Mode :=
  (fun p => .target (.project p)) <$> required ms "project_path" path
    <* noOthers ms ["kind", "project_path"]

def checkSources (ms : List (Document × Document)) : Checked Mode :=
  (fun files folder => .target (.sources ⟨files.1, files.2, folder⟩))
    <$> required ms "files" (nonemptySequence path)
    <*> required ms "base_folder" path
    <* noOthers ms ["kind", "files", "base_folder"]

def checkInline (ms : List (Document × Document)) : Checked Mode :=
  Mode.inline <$> required ms "text" text <* noOthers ms ["kind", "text"]

/-- A mode read from a dictionary whose field `kind` tells the four kinds apart. Issues of a
field are reported below the kind. -/
def check : Check Mode
  | .dict ms =>
    match member? ms "kind" with
    | none => .broken (.tagMissing "kind")
    | some (.str "directory") => (checkDirectory ms).under (.field "directory")
    | some (.str "project") => (checkProject ms).under (.field "project")
    | some (.str "files") => (checkSources ms).under (.field "files")
    | some (.str "inline") => (checkInline ms).under (.field "inline")
    | some tag => .broken (.tagUnknown "kind" tag.display kinds)
  | _ => .broken .fields

end Mode

end ContractBuild
