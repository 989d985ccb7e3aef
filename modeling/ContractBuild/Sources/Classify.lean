import ContractBuild.Host
import ContractBuild.Mode

/-!
# Classification of inputs

`classify_paths` of the program: what a list of input paths asks for, without scanning any
directory. No path asks for the base directory, one directory for that directory, one project
descriptor for that project, and anything else for a list of source files, each of which must have
the suffix of sources and exist.

The order of the tests is part of the result, since the first one that fails is the one that is
told:

* the base and all paths are made absolute before any is looked at, so a `~` that names no home
  comes before everything else;
* a single path is asked whether it is a directory, then whether it is a descriptor, and only then
  treated as a list of one (`single?`);
* in a list every file is asked for its suffix first and for its existence second, in the order
  given (`checkFiles`), and a list does not treat directories and descriptors in any other way.

There are two kinds of failure. A path that is no source file is a refusal with a message
(`wrongSuffix`, `missingFile`). A test that the operating system answers with an error, as for a
path that is too long, is passed on as it is and is no refusal.
-/

namespace ContractBuild.Sources

/-- What input paths ask for. -/
inductive Request where
  /-- A directory that still has to be scanned. -/
  | directory (path : Path)
  | target (t : Target)
  deriving DecidableEq

/-- A request as a mode of compilation. -/
def Request.mode : Request → Mode
  | directory p => .directory p
  | target t => .target t

/-- The suffix of source files. -/
def sourceSuffix : String := ".cs"

/-- The suffix of project descriptors. -/
def projectSuffix : String := ".csproj"

/-- The refusal of a path without the suffix of sources. -/
def wrongSuffix (p : Path) : Refusal :=
  .input ("The files must have a .cs extension: \"" ++ p.toText ++ "\".") (some p.toText)

/-- The refusal of a source file that does not exist. -/
def missingFile (p : Path) : Refusal :=
  .input ("The file \"" ++ p.toText ++ "\" doesn't exist.") (some p.toText)

/-- Whether a path leads to a directory. -/
def isFolder (host : Host) (disk : Disk) (p : Path) : Except Failure Bool :=
  (disk.isFolder host.cwd p).mapError .system

/-- Whether a path leads to a regular file. -/
def isFile (host : Host) (disk : Disk) (p : Path) : Except Failure Bool :=
  (disk.isFile host.cwd p).mapError .system

/-- Accepts existing source files and refuses the first path that is none. The suffix is looked at
first, so a directory or a missing file of another suffix is refused for its suffix. -/
def checkFiles (host : Host) (disk : Disk) : List Path → Except Failure Unit
  | [] => .ok ()
  | p :: ps => do
    if !p.hasSuffix sourceSuffix then throw (.refused (wrongSuffix p))
    if !(← isFile host disk p) then throw (.refused (missingFile p))
    checkFiles host disk ps

/-- What one path asks for if it is a directory or a project descriptor. Links are followed, and a
directory counts as one whatever its name ends in. -/
def single? (host : Host) (disk : Disk) (p : Path) : Except Failure (Option Request) := do
  if ← isFolder host disk p then return some (.directory p)
  else if (← isFile host disk p) && p.hasSuffix projectSuffix then
    return some (.target (.project p))
  else return none

/-- A list of source files, all of which must exist. -/
def fileList (host : Host) (disk : Disk) (first : Path) (rest : List Path) :
    Except Failure Request := do
  checkFiles host disk (first :: rest)
  return .target (.sources ⟨first :: rest, List.cons_ne_nil _ _, first.parent⟩)

/-- What absolute paths ask for. Only a path on its own can be a directory or a project descriptor:
among several paths each has to be a source. -/
def classifyAbsolute (host : Host) (disk : Disk) (base : Path) :
    List Path → Except Failure Request
  | [] => .ok (.directory base)
  | [p] => do
    match ← single? host disk p with
    | some r => return r
    | none => fileList host disk p []
  | p :: ps => fileList host disk p ps

/-- What input paths ask for, relative ones taken from `cwd`. All of them are made absolute before
any is tested. -/
def classify (host : Host) (disk : Disk) (paths : List String) (cwd : Option String) :
    Except Failure Request := do
  let base ← host.base disk cwd
  let absolutes ← paths.mapM fun s => host.absolute (Path.ofText s) base
  classifyAbsolute host disk base absolutes

end ContractBuild.Sources
