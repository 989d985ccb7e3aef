import ContractBuild.Command.Program

/-!
# The command line

Reads the files below the working directory and below the paths among the arguments into a disk,
runs the program on it, and writes back what changed. Symbolic links are not read. No engine is
linked in: a program that links one hands it over in the context.
-/

namespace ContractBuild.Outside

/-- Adds a directory entry, and what stands below it, to a disk. -/
partial def readEntry (disk : Disk) (parent : Location) (entry : IO.FS.DirEntry) : IO Disk := do
  let l := parent ++ [entry.fileName]
  match (← entry.path.symlinkMetadata).type with
  | .dir =>
    (← entry.path.readDir).foldlM (fun d e => readEntry d l e) (disk.put l .folder)
  | .file => return disk.put l (.file (← IO.FS.readBinFile entry.path).data.toList)
  | _ => return disk

/-- The text of a location. -/
def pathText (l : Location) : String := "/" ++ "/".intercalate l

/-- Adds what stands at a location, and the directories on the way to it, to a disk. -/
def readLocation (disk : Disk) (l : Location) : IO Disk := do
  match l.getLast? with
  | none => return disk
  | some name =>
    let entry : IO.FS.DirEntry := { root := pathText l.dropLast, fileName := name }
    if ← entry.path.pathExists then
      let way := (List.range l.length).map fun n => l.take n
      readEntry (way.foldl (fun d p => if p = [] then d else d.put p .folder) disk) l.dropLast entry
    else return disk

/-- The environment variables that settings come from. -/
def variableNames : List String := "HOME" :: Command.settingVariables.map (·.2)

/-- The host that the program runs on. -/
def readHost : IO Host := do
  let cwd := (Path.ofText (← IO.currentDir).toString).parts
  let environment ← variableNames.filterMapM fun name => do
    return (← IO.getEnv name).map fun value => (name, value)
  return { cwd, environment, homes := { current := (environment.lookup "HOME").getD "/" } }

/-- The disk as far as the arguments can reach it. -/
def readDisk (host : Host) (args : List String) : IO Disk := do
  let base := Path.ofComponents .root host.cwd
  let reached := args.filterMap fun a =>
    match host.absolute (Path.ofText a) base with
    | .ok p => some p.parts
    | .error _ => none
  (host.cwd :: reached).foldlM readLocation .empty

/-- Writes back the differences between two disks. -/
def writeChanges (before after : Disk) : IO Unit := do
  for (l, node) in after.entries do
    if before.get? l ≠ some node then
      match node with
      | .folder => IO.FS.createDirAll (pathText l)
      | .file content => IO.FS.writeBinFile (pathText l) ⟨content.toArray⟩
      | .link _ | .device _ => pure ()
  for (l, _) in before.entries do
    if after.get? l = none then IO.FS.removeFile (pathText l)

/-- Tells how a session ended early, unless its messages told it already. -/
def showEnding : Except Command.Interruption Unit → IO Unit
  | .error (.usage e) => IO.eprintln ("Error: " ++ e.message)
  | .error (.failure f) => IO.eprintln ("Error: " ++ f.message)
  | _ => pure ()

end ContractBuild.Outside

open ContractBuild in
/-- Runs the program on the arguments of the process. -/
def main (args : List String) : IO UInt32 := do
  let host ← Outside.readHost
  let disk ← Outside.readDisk host args
  let (ending, s) := Command.Program.run { host } disk args
  Outside.writeChanges disk s.disk
  IO.print s.console.out
  s.records.forM fun r => IO.eprint (s.log.written r)
  IO.eprint s.console.err
  Outside.showEnding ending
  return UInt32.ofNat (Command.exitCode ending)
