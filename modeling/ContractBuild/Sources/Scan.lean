import ContractBuild.Sources.Classify

/-!
# Scanning a directory

`scan_directory`, `iter_source_files` and `resolve_inputs` of the program: what a directory holds
to be compiled. That is the least of the project descriptors directly in it, or else all source
files below it in path order. Folders named `obj` directly in the directory hold build output and
are left out; deeper down the name means nothing.

The two halves of a scan ask the disk in different ways, and what follows from a path that is too
long differs accordingly:

* `projectsIn` tests every entry of the directory, whatever its suffix, before the suffixes are
  looked at. The first entry that cannot be tested ends the scan with an error;
* `sourcesBelow` takes the files that a walk over the tree meets. A folder that cannot be opened
  is passed over in silence, and files are known by their place in a listing and never tested.

Both give the same result for every order in which directories list their entries, because
descriptors and sources are sorted (`sorted`), and because there is only one error that a test can
end in. The walk itself has the order of the disk. It follows no links to directories, and a link
to a file counts as a file.
-/

namespace ContractBuild.Sources

/-- Folders directly in a scanned directory that hold no sources. -/
def skippedFolders : List String := ["obj"]

/-- Orders paths component by component. -/
def sorted (ps : List Path) : List Path := ps.mergeSort Path.le

/-- The source files below a directory, in the order of the walk, each under the path of the
directory as it was given. A path that cannot be walked gives none. -/
def sourcesBelow (host : Host) (disk : Disk) (directory : Path) : List Path :=
  match disk.locate host.cwd (.ofPath directory) with
  | .error _ => []
  | .ok top =>
    (disk.filesBelow host.cwd skippedFolders top (.ofPath directory)
      |>.map fun names => directory.join (Path.ofComponents .relative names))
      |>.filter (·.hasSuffix sourceSuffix)

/-- The source files below a directory that a caller names. The null character in its path is
refused. -/
def listSources (host : Host) (disk : Disk) (directory : Path) : Except Failure (List Path) :=
  match disk.locate host.cwd (.ofPath directory) with
  | .error .nul => .error .nulInPath
  | _ => .ok (sourcesBelow host disk directory)

/-- The project descriptors directly in a directory, in path order. Every entry is tested for being
a file before any suffix is looked at. -/
def projectsIn (host : Host) (disk : Disk) (directory : Path) : Except Failure (List Path) := do
  let names ← (disk.list host.cwd directory).mapError Disk.Fault.toFailure
  let files ← (names.map directory.joinText).filterM (isFile host disk)
  return sorted (files.filter fun p => p.hasSuffix projectSuffix)

/-- The record of a choice among several descriptors. -/
def severalProjects (directory selected : Path) (candidates : List Path) : Log.Record where
  level := .warning
  event := "multiple_project_files"
  logger := "nccs_core.resolver"
  fields := [("directory", .str directory.toText), ("selected", .str selected.name),
    ("candidates", .list (candidates.map fun p => .str p.name))]

/-- What a directory holds to be compiled. A choice among several descriptors is recorded with all
of them; sources are looked for only where there is no descriptor. -/
def scan (host : Host) (disk : Disk) (directory : Path) : Attempt Target := do
  match ← Attempt.ofExcept (projectsIn host disk directory) with
  | p :: ps =>
    if !ps.isEmpty then Attempt.record (severalProjects directory p (p :: ps))
    return .project p
  | [] =>
    match sorted (sourcesBelow host disk directory) with
    | [] => Attempt.refuse (.noSource directory.toText)
    | f :: fs => return .sources ⟨f :: fs, List.cons_ne_nil _ _, directory⟩

/-- The record of what inputs were resolved to. -/
def resolvedRecord (t : Target) : Log.Record where
  level := .debug
  event := "inputs_resolved"
  logger := "nccs_core.resolver"
  fields := [("mode", .str (Mode.target t).kind), ("source_folder", .str t.folder.toText),
    ("file_count", .int t.fileCount)]

/-- What input paths give to compile: the target that they name, or what the scan of a directory
finds. The result is recorded, a refusal is not. -/
def resolve (host : Host) (disk : Disk) (paths : List String) (cwd : Option String) :
    Attempt Target := do
  let target ← match ← Attempt.ofExcept (classify host disk paths cwd) with
    | .directory p => scan host disk p
    | .target t => pure t
  Attempt.record (resolvedRecord target)
  return target

end ContractBuild.Sources
