import ContractBuild.Host

/-!
# Workspaces

A disk and the host whose working directory lies on it, and what is done to them between one run
and the next: files, directories and links are made, trees are removed, and the working directory
changes.
-/

namespace ContractBuild

structure Workspace where
  disk : Disk
  host : Host

namespace Workspace

/-- The answer of a file operation that leaves a disk. -/
def onDisk (w : Workspace) (r : Except Disk.Fault Unit × Disk) : Except Failure Unit × Workspace :=
  (r.1.mapError Disk.Fault.toFailure, { w with disk := r.2 })

/-- Makes a directory, with missing parents. -/
def makeFolder (w : Workspace) (p : Path) : Except Failure Unit × Workspace :=
  w.onDisk (w.disk.ensureFolders w.host.cwd p)

/-- Makes the parents of a path and goes on. They stay if that fails. -/
def inParents (w : Workspace) (p : Path) (go : Disk → Except Disk.Fault Disk) :
    Except Failure Unit × Workspace :=
  w.onDisk <|
    match w.disk.ensureFolders w.host.cwd p.parent with
    | (.error e, disk) => (.error e, disk)
    | (.ok (), disk) =>
      match go disk with
      | .ok disk => (.ok (), disk)
      | .error e => (.error e, disk)

/-- Writes a text into a file, with missing parents. -/
def writeFile (w : Workspace) (p : Path) (text : String) : Except Failure Unit × Workspace :=
  w.inParents p fun disk => disk.write w.host.cwd p (Text.encode text)

/-- Makes a link, with missing parents. A link leads somewhere, and nothing may have its name. -/
def makeLink (w : Workspace) (p : Path) (target : String) : Except Failure Unit × Workspace :=
  w.inParents p fun disk =>
    if target = "" then .error (.errno .noEntry)
    else
      match disk.walk .keep w.host.cwd (.ofPath p) with
      | .ok (.missing parent name) => .ok (disk.put (parent ++ [name]) (.link target))
      | .ok (.reached _) => .error (.errno .alreadyExists)
      | .error e => .error e

/-- Removes what stands at a location. -/
def removeLocation (w : Workspace) (l : Location) : Workspace where
  disk := w.disk.remove l
  host := w.host.withoutLocation l

/-- Removes a path with everything below it. A directory that is named by points only loses what it
holds. Before that it is asked whether the path leads to a directory, which may fail. -/
def remove (w : Workspace) (p : Path) : Except Failure Unit × Workspace :=
  match w.disk.isFolder w.host.cwd p, w.disk.walk .keep w.host.cwd (.ofPath p) with
  | .error e, _ => (.error (.system e), w)
  | _, .error e => (.error e.toFailure, w)
  | _, .ok (.missing _ _) => (.error (.system .noEntry), w)
  | _, .ok (.reached l) =>
    let emptied := (w.disk.namesIn l).foldl (fun w name => w.removeLocation (l ++ [name])) w
    match p.parts.getLast? with
    | none => (.error (.system .notValid), emptied)
    | some ".." => (.error (.system .notEmpty), emptied)
    | some _ => (.ok (), w.removeLocation l)

/-- Makes a directory the working directory. -/
def enter (w : Workspace) (p : Path) : Except Failure Unit × Workspace :=
  match w.disk.locate w.host.cwd (.ofPath p) with
  | .error e => (.error e.toFailure, w)
  | .ok l =>
    if w.disk.nodeAt l = .folder then (.ok (), { w with host := { w.host with cwd := l } })
    else (.error (.system .notDirectory), w)

end Workspace

end ContractBuild
