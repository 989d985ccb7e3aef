import ContractBuild.Disk.Walk

/-!
# File operations

What can be asked of a disk and done to it through paths. A relative path starts at the working
directory `cwd`. Every operation answers or says why the operating system refuses it:

* `isFolder` and `isFile`, the tests that `classify_paths` and `scan_directory` make. They answer
  no where nothing can be found and fail for the other reasons (`Errno.meansAbsent`);
* `list`, the entries of a directory in the order of the disk;
* `makeFolder` and, with all missing ancestors, `ensureFolders`, which creates the output folder;
* `write`, `fill` and `unlink`, which the writer of artifacts is made of;
* `filesBelow`, the walk over a tree behind `iter_source_files`.

Writing has two stages. `write` opens a file, empties it and writes all of a content; it is
refused on opening, if at all, or by the device that takes nothing. `fill` is the operation that
the writer uses: the operating system may also break the writing off (`Cutoff`), and then the
first bytes of the content are in the file when the refusal comes (`reaching`). Where that happens
is for the host to say (`Host.cutoff?`).

`filesBelow` recurses on how much shorter than `maxPath` the path of a directory is: a directory
whose path is too long to be opened is passed over, so the length of the path bounds the depth.
Neither this walk nor `ensureFolders` has another limit on its depth.
-/

namespace ContractBuild.Disk

/-- The location that a path leads to, links followed. -/
def locate (d : Disk) (cwd : Location) (r : Route) : Except Fault Location :=
  match d.walk .follow cwd r with
  | .ok (.reached l) => .ok l
  | .ok (.missing _ _) => .error (.errno .noEntry)
  | .error e => .error e

theorem located_iff {d : Disk} {cwd l : Location} {r : Route} :
    d.locate cwd r = .ok l ↔ d.walk .follow cwd r = .ok (.reached l) := by
  unfold locate
  split
  next hwalk => simp [hwalk]
  next hwalk => simp [hwalk]
  next hwalk => simp [hwalk]

/-- The node that a walk has reached. Where nothing is, the walk stayed in a directory that was
removed. -/
def nodeAt (d : Disk) (l : Location) : Node := (d.get? l).getD .folder

/-- The node that a path leads to, links followed. -/
def status (d : Disk) (cwd : Location) (r : Route) : Except Fault Node :=
  (d.locate cwd r).map d.nodeAt

/-- Whether a path leads to a node of a certain kind. Paths that lead nowhere do not, and neither do
paths with the null character; a path that is too long is an error. -/
def leadsTo (d : Disk) (kind : Node → Bool) (cwd : Location) (p : Path) : Except Errno Bool :=
  match d.status cwd (.ofPath p) with
  | .ok n => .ok (kind n)
  | .error .nul => .ok false
  | .error (.errno e) => if e.meansAbsent then .ok false else .error e

theorem leadsTo_eq_true_iff {d : Disk} {kind : Node → Bool} {cwd : Location} {p : Path} :
    d.leadsTo kind cwd p = .ok true ↔ ∃ n, d.status cwd (.ofPath p) = .ok n ∧ kind n = true := by
  unfold leadsTo
  rcases d.status cwd (.ofPath p) with (_ | e) | n
  · simp
  · simp only
    split <;> simp
  · simp

/-- Whether a path leads to a directory. -/
def isFolder (d : Disk) (cwd : Location) (p : Path) : Except Errno Bool :=
  d.leadsTo (fun n => match n with | .folder => true | _ => false) cwd p

/-- Whether a path leads to a regular file. -/
def isFile (d : Disk) (cwd : Location) (p : Path) : Except Errno Bool :=
  d.leadsTo (fun n => match n with | .file _ => true | _ => false) cwd p

/-- The content of the file that a path leads to, if it leads to one. -/
def content? (d : Disk) (cwd : Location) (p : Path) : Option Bytes :=
  match d.status cwd (.ofPath p) with
  | .ok (.file content) => some content
  | _ => none

/-- The names in the directory that a path leads to. Unlike a test this fails wherever there is no
directory, for the reason that the walk or the directory gives. -/
def list (d : Disk) (cwd : Location) (p : Path) : Except Fault (List String) :=
  match d.locate cwd (.ofPath p) with
  | .error e => .error e
  | .ok l =>
    if d.nodeAt l = .folder then .ok (d.namesIn l) else .error (.errno .notDirectory)

/-! ## Changes -/

/-- Creates a directory. Its parent must exist, and nothing may have its name. -/
def makeFolder (d : Disk) (cwd : Location) (p : Path) : Except Fault Disk :=
  match d.walk .keep cwd (.ofPath p) with
  | .error e => .error e
  | .ok (.reached _) => .error (.errno .alreadyExists)
  | .ok (.missing parent name) => .ok (d.put (parent ++ [name]) .folder)

/-- Creates a directory whose parent exists, unless the path already leads to a directory. A missing
parent and the null character are not forgiven; every other refusal is, if a directory is there. -/
def ensureFolder (d : Disk) (cwd : Location) (p : Path) : Except Fault Disk :=
  match d.makeFolder cwd p with
  | .ok d => .ok d
  | .error .nul => .error .nul
  | .error (.errno .noEntry) => .error (.errno .noEntry)
  | .error (.errno e) =>
    match d.isFolder cwd p with
    | .ok true => .ok d
    | .ok false => .error (.errno e)
    | .error e => .error (.errno e)

/-- Creates a directory and those of its ancestors that are missing. Ancestors that were created
stay even if the directory itself cannot be created.

Only a missing parent makes the ancestors to be created, so the recursion goes up to the deepest
directory that exists, and the parts of the path bound it. -/
def ensureFolders (d : Disk) (cwd : Location) (p : Path) : Except Fault Unit × Disk :=
  match d.makeFolder cwd p with
  | .ok d => (.ok (), d)
  | .error (.errno .noEntry) =>
    if _h : p.parts = [] then (.error (.errno .noEntry), d)
    else
      match d.ensureFolders cwd p.parent with
      | (.error e, d) => (.error e, d)
      | (.ok (), d) =>
        match d.ensureFolder cwd p with
        | .ok d => (.ok (), d)
        | .error e => (.error e, d)
  | .error _ =>
    match d.ensureFolder cwd p with
    | .ok d => (.ok (), d)
    | .error e => (.error e, d)
  termination_by p.parts.length
  decreasing_by
    have := List.length_pos_iff.2 _h
    simp only [Path.parent, List.length_dropLast]
    omega

/-- Writes the content of a file, which is created if it does not exist and emptied if it does, so
that nothing of what it held is left behind a shorter content. A link in the last step is followed,
also one that leads to nothing yet. Of the devices one takes every content and keeps nothing, the
other refuses the first byte. -/
def write (d : Disk) (cwd : Location) (p : Path) (content : Bytes) : Except Fault Disk :=
  match d.walk .create cwd (.ofPath p) with
  | .error e => .error e
  | .ok (.missing parent name) => .ok (d.put (parent ++ [name]) (.file content))
  | .ok (.reached l) =>
    match d.nodeAt l with
    | .file _ => .ok (d.put l (.file content))
    | .device .null => .ok d
    | .device .full => if content.isEmpty then .ok d else .error (.errno .noSpace)
    | .folder | .link _ => .error (.errno .isDirectory)

/-- Where the operating system breaks off the writing of an open file: how many bytes are in the
file by then, and the reason. -/
structure Cutoff where
  kept : Nat
  reason : Errno
  deriving DecidableEq, Repr

/-- The bytes of a content that get into its file: all of them, or the first ones where the writing
is broken off. -/
def reaching (content : Bytes) : Option Cutoff → Bytes
  | none => content
  | some cut => content.take cut.kept

/-- Opens a file and writes its content. The writing may be broken off, which leaves the first bytes
of the content under the path and is refused all the same. -/
def fill (d : Disk) (cwd : Location) (p : Path) (content : Bytes) (cut? : Option Cutoff) :
    Except Fault Unit × Disk :=
  match d.write cwd p (reaching content cut?), cut? with
  | .error e, _ => (.error e, d)
  | .ok written, none => (.ok (), written)
  | .ok written, some cut => (.error (.errno cut.reason), written)

/-- Removes what stands under a name; a link is removed itself, and what it leads to stays.
Directories are not removed, not even empty ones. -/
def unlink (d : Disk) (cwd : Location) (p : Path) : Except Fault Disk :=
  match d.walk .keep cwd (.ofPath p) with
  | .error e => .error e
  | .ok (.missing _ _) => .error (.errno .noEntry)
  | .ok (.reached l) =>
    if d.nodeAt l = .folder then .error (.errno .isDirectory) else .ok (d.remove l)

/-! ## Walking a tree -/

/-- Whether a node counts as a file when a tree is walked: everything that is no directory and
does not lead to one. The route leads to the node. -/
def countsAsFile (d : Disk) (cwd : Location) (r : Route) : Node → Bool
  | .folder => false
  | .file _ | .device _ => true
  | .link _ =>
    match d.status cwd r with
    | .ok n => n ≠ .folder
    | .error _ => true

/-- The names on the way to each file below a directory. The directory is at `top`, and the route
`r` leads there. Its own files come before those of the directories in it. Links to directories
are not entered, and neither are directories whose path is too long. In the directory itself,
directories whose name is in `skipped` are left out. -/
def filesBelow (d : Disk) (cwd : Location) (skipped : List String) (top : Location) (r : Route) :
    List (List String) :=
  if maxPath ≤ r.size then []
  else
    let files := (d.namesIn top).filter fun name =>
      (d.get? (top ++ [name])).any (d.countsAsFile cwd (r.below name))
    let folders := (d.namesIn top).filter fun name =>
      d.get? (top ++ [name]) = some .folder && name ∉ skipped
    files.map ([·]) ++ folders.flatMap fun name =>
      (d.filesBelow cwd [] (top ++ [name]) (r.below name)).map (name :: ·)
  termination_by maxPath - r.size + if r.steps.isEmpty then 1 else 0
  decreasing_by
    -- the path grows at every step, but for the first step from the root perhaps
    have hbelow : (r.below name).steps.isEmpty = false := by simp [Route.below]
    rw [hbelow, Route.below]
    cases r.steps.isEmpty <;> cases r.rooted <;> simp <;> omega

end ContractBuild.Disk
