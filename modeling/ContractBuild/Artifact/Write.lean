import ContractBuild.Archive.Packed
import ContractBuild.Artifact.Content
import ContractBuild.Host
import ContractBuild.Run

/-!
# Writing artifacts

`ArtifactWriter` of the program. The artifacts of a successful compilation are written into the
output folder, one after another in the order of the plan. Each is produced only after the one
before it was written, and a line tells of each file when it is complete. A file that cannot be
written ends the writing; the files before it stay.

`store` writes one file. It has three ways to fail, and what they leave differs:

* the operating system refuses, on opening the file or in the middle of the writing (`Disk.fill`).
  What was written is removed (`discard`), the details go to the log, and the user is told the
  path;
* the file is open and the content does not get into it (`fillFault?`). Nobody turns this into a
  refusal. Only the writer of archives cleans up whatever happens (`abandon`), so an archive is
  removed and a listing that cannot be encoded leaves an empty file;
* the path has the null character. Nothing is opened then and nothing changes.

An archive is removed twice after a refusal of the operating system, by whoever fills it and by
the common code behind it. The first removal may be refused itself, and then the log has that
reason (`retract`).

`write` is the whole: whether the compilation succeeded and has a name is asked first, then the
folder is created, then the layout is made, then the plan is written. So a name that makes no
layout still leaves the folder behind.

Departures: a regular file that was opened takes its content up to the place where the host breaks
the writing off, in one piece. Closing a file never fails on its own, and a refusal has no other
effect than the one described here.
-/

namespace ContractBuild.Artifact

/-- Whether a path leads to the device that keeps nothing. There the place in an archive at which
its writer believes to be is always the beginning. -/
def keepsNothing (disk : Disk) (cwd : Location) (p : Path) : Bool :=
  match disk.status cwd (.ofPath p) with
  | .ok (.device .null) => true
  | _ => false

/-- The failure of an archive that does not fit the fields of its format. -/
def unfit (message : String) : Failure := .foreign { kind := "error", message }

/-- Why a content does not get into a file that is open: an archive has an entry that does not fit
the format, or its directory seems to end before it starts; a text has no bytes. -/
def fillFault? (disk : Disk) (cwd : Location) (p : Path) : Content → Option Failure
  | .plain _ => none
  | .loose t => some (unencodable t.before.length t)
  | .archive e =>
    match e.misfit? with
    | some message => some (unfit message)
    | none =>
      if keepsNothing disk cwd p && !Archive.fitsNowhere e then some (unfit "argument out of range")
      else none

/-- Removes what was written under a path as far as that is possible. Whatever the operating system
says to it is not passed on. -/
def discard (disk : Disk) (cwd : Location) (p : Path) : Disk :=
  match disk.unlink cwd p with
  | .ok disk => disk
  | .error _ => disk

/-- What is left of a file that is open and into which its content does not get. Only an archive is
removed whatever the reason; other files are removed after refusals of the operating system. -/
def abandon (written : Disk) (cwd : Location) (p : Path) : Content → Disk
  | .archive _ => discard written cwd p
  | .plain _ | .loose _ => written

/-- Removes an archive for the first time after the operating system has refused to go on: whoever
fills it does so before the refusal gets any further, and a refusal of the removal is then the one
that counts. That nothing is there to be removed is none. -/
def retract (left : Disk) (cwd : Location) (p : Path) (e : Errno) : Content → Errno × Disk
  | .archive _ =>
    match left.unlink cwd p with
    | .ok disk => (e, disk)
    | .error (.errno .noEntry) | .error .nul => (e, left)
    | .error (.errno e) => (e, left)
  | .plain _ | .loose _ => (e, left)

/-- Stores the content of a file. After a refusal of the operating system, before the file is open
or in the middle of the writing, nothing is left under the path, unless a directory stands there. -/
def store (disk : Disk) (cwd : Location) (p : Path) (c : Content) (cut? : Option Disk.Cutoff) :
    Except Failure Unit × Disk :=
  match disk.fill cwd p c.bytes cut? with
  | (.ok (), written) =>
    match fillFault? disk cwd p c with
    | some f => (.error f, abandon written cwd p c)
    | none => (.ok (), written)
  | (.error .nul, disk) => (.error .nulInPath, disk)
  | (.error (.errno e), left) =>
    let (e, left) := retract left cwd p e c
    (.error (.system e), discard left cwd p)

/-- The record of a file that could not be written. -/
def failedRecord (p : Path) (details : String) : Log.Record where
  level := .error
  event := "artifact_write_failed"
  logger := "nccs_core.writer"
  fields := [("path", .str p.toText), ("error", .str details)]

/-- Produces an artifact and writes its file. The producer is on the trail whatever comes of it; a
line for the user tells of the file once it is complete. Of the ways in which storing may fail only
what the operating system says becomes a refusal. -/
def writeOne (host : Host) (r : Compiled) (l : Layout) (a : Artifact) : Running Path := do
  let d ← Running.attempt (Attempt.produce r a)
  let c ← Running.attempt (Attempt.ofExcept (content l a d))
  let p := l.path a
  let (stored, disk) := store (← get).disk host.cwd p c (host.cutoff? p c.bytes)
  modify fun s => { s with disk }
  match stored with
  | .ok () =>
    Running.writeLine .out ("Created " ++ p.toText)
    return p
  | .error (.system e) =>
    Running.record (failedRecord p (host.describe e))
    Running.refuse (.unwritable p.toText) (host.describe e)
  | .error f => Running.fail f

/-- Writes artifacts one after another and gives their paths. What was written before a failure
stays written. -/
def writeAll (host : Host) (r : Compiled) (l : Layout) : List Artifact → Running (List Path)
  | [] => return []
  | a :: as => do
    let p ← writeOne host r l a
    let ps ← writeAll host r l as
    return p :: ps

/-- Creates the output folder with its missing ancestors. What was created before a failure stays.
-/
def prepareFolder (host : Host) (folder : Path) : Running Unit := do
  let (made, disk) := (← get).disk.ensureFolders host.cwd folder
  modify fun s => { s with disk }
  match made with
  | .ok () => return ()
  | .error .nul => Running.fail .nulInPath
  | .error (.errno e) => Running.refuse (.unwritable folder.toText) (host.describe e)

/-- The line that ends a successful writing. -/
def completedLine : String := "Compilation completed successfully."

/-- The record of a successful writing. -/
def writtenRecord (folder : Path) (count : Nat) : Log.Record where
  level := .info
  event := "artifacts_written"
  logger := "nccs_core.writer"
  fields := [("folder", .str folder.toText), ("count", .int count)]

/-- The name of the files: the given one, else the engine's, else the configured one. A name counts
as given if it counts as yes, whatever its kind. -/
def fileName? (name : Value) (r : Compiled) (options : Options) : Option Value :=
  [name, r.contractName, .ofOption options.contractName].find? Value.isYes

/-- Writes the artifacts of a successful compilation that has a name. That the name is a text, and
one that can be encoded, shows only once there is a folder. The result is the layout with the files
that were written, in the order of the plan. -/
def write (host : Host) (r : Compiled) (options : Options) (fallback : Path)
    (name : Value) : Running Layout :=
  if !r.success then Running.fail (.misuse .unsuccessful)
  else
    match fileName? name r options with
    | none => Running.fail (.misuse .nameless)
    | some name => do
      let folder := options.outputFolder fallback
      prepareFolder host folder
      match Layout.ofName folder name with
      | .invalid issues => Running.fail (.invalid issues)
      | .valid l =>
        let files ← writeAll host r l (plan options)
        Running.writeLine .out completedLine
        Running.record (writtenRecord folder files.length)
        return { l with files }

end ContractBuild.Artifact
