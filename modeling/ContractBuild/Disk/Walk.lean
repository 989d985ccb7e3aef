import ContractBuild.Disk.Basic
import ContractBuild.Disk.Errno

/-!
# Walking a path

How the operating system follows a path: component by component from a directory, `..` going to
the parent of the directory reached, symbolic links replaced by their targets. The result is the
location reached, or the directory in which only the last name is missing.

The walk comes in three layers, each with a recursion of its own:

* `advance` follows the steps up to the first link that does not end the walk. It recurses on the
  steps alone and knows nothing of limits;
* `follow` replaces that link by its target and goes on, at most `maxLinks` times, so it recurses
  on the number of links that are left;
* `walk` checks the path as a whole: the null character, the empty path, the length.

What a walk does at a link in the last step is a parameter (`LastLink`), because removing a node,
testing it and creating a file each treat it in their own way.

Two lengths are limited and both are counted in bytes: a name (`maxName`) when it is looked up,
and the path as it was given (`maxPath`) before anything is looked up. So a file may exist and
still not be reachable under its full path; `Route.size` carries the length of the spelling along
for that.

A walk may start in a directory that was removed. It is reached by staying there, `..` leads to
where it stood, and no name leads anywhere.
-/

namespace ContractBuild

/-- A path as the operating system takes it. -/
structure Route where
  /-- Whether the walk starts at the root. -/
  rooted : Bool
  steps : List String
  /-- Whether a slash at the end asks for a directory. -/
  folderOnly : Bool := false
  /-- The length of the path in bytes. -/
  size : Nat

namespace Route

/-- The route of a path. -/
def ofPath (p : Path) : Route where
  rooted := p.isAbsolute
  steps := p.parts
  size := p.toText.utf8ByteSize

/-- The route that a text names. -/
def ofText (s : String) : Route :=
  let cs := Path.components s
  let steps := cs.filter (· ≠ "")
  { rooted := s.toList.head? = some '/'
    steps
    folderOnly := !steps.isEmpty && cs.getLast? = some ""
    size := s.utf8ByteSize }

/-- The route to a name in the directory that a route leads to, as a walk over a tree spells it. The
slash at the end of a route without steps is not repeated, so the root adds no byte to what is in
it. -/
def below (r : Route) (name : String) : Route where
  rooted := r.rooted
  steps := r.steps ++ [name]
  size := r.size + name.utf8ByteSize + if r.rooted && r.steps.isEmpty then 0 else 1

/-- The steps, with a last step `.` where a directory is asked for. -/
def allSteps (r : Route) : List String := if r.folderOnly then r.steps ++ ["."] else r.steps

/-- Whether the null character occurs on the way. -/
def hasNul (r : Route) : Bool := r.steps.any fun s => s.toList.contains '\x00'

end Route

namespace Disk

/-- Where a walk ends. -/
inductive Arrival where
  | reached (l : Location)
  /-- Nothing has the last name in the directory `parent`. -/
  | missing (parent : Location) (name : String)
  deriving DecidableEq, Repr

/-- How far a walk gets before it meets a symbolic link. -/
inductive Progress where
  | arrived (a : Arrival)
  | refused (e : Errno)
  /-- The link `target` was met in the directory `start`, with `rest` still to go. -/
  | detour (start : Location) (target : String) (rest : List String)
  deriving DecidableEq, Repr

/-- What becomes of a link in the last step of a walk. -/
inductive LastLink where
  /-- The walk ends there. -/
  | keep
  | follow
  /-- It is followed to a file that may still have to be created, which a target with a slash at its
  end cannot be. -/
  | create
  deriving DecidableEq, Repr

/-- The longest name that a directory can hold, in bytes. -/
def maxName : Nat := 255

/-- Follows the steps from a directory up to the first link that does not end the walk. A name is
looked up only in a directory that is still there, and its length is checked before it is looked up:
a name that is too long is refused although nothing of that name can exist. -/
def advance (d : Disk) (last : LastLink) (start : Location) : List String → Progress
  | [] => .arrived (.reached start)
  | step :: rest =>
    if step = "." then d.advance last start rest
    else if step = ".." then d.advance last start.dropLast rest
    else if d.get? start ≠ some .folder then .refused .noEntry
    else if maxName < step.utf8ByteSize then .refused .nameTooLong
    else
      let next := start ++ [step]
      match d.get? next with
      | none => if rest.isEmpty then .arrived (.missing start step) else .refused .noEntry
      | some .folder => d.advance last next rest
      | some (.link target) =>
        if rest.isEmpty && last = .keep then .arrived (.reached next)
        else .detour start target rest
      | some (.file _) | some (.device _) =>
        if rest.isEmpty then .arrived (.reached next) else .refused .notDirectory

/-- Follows the steps from a directory, links included. At most `links` links are followed. A target
that starts at the root leaves the directory of its link behind.

No file can be created behind a link whose target ends in a slash. That is refused in one of three
ways, told by what the target without its slash leads to. -/
def follow (d : Disk) (last : LastLink) (links : Nat) (start : Location) (steps : List String) :
    Except Errno Arrival :=
  match d.advance last start steps with
  | .arrived a => .ok a
  | .refused e => .error e
  | .detour start target rest =>
    match links with
    | 0 => .error .loop
    | links + 1 =>
      let route := Route.ofText target
      let start := if route.rooted then [] else start
      if last = .create && rest.isEmpty && route.folderOnly then
        match d.follow .follow links start route.steps.dropLast with
        | .ok (.reached l) =>
          .error (if d.get? l = some .folder then .isDirectory else .notDirectory)
        | .ok (.missing _ _) => .error .noEntry
        | .error e => .error e
      else d.follow last links start (route.allSteps ++ rest)

/-- How many links one walk may follow. -/
def maxLinks : Nat := 40

/-- The least length of a path, in bytes, that is too long. The byte that ends a path for the
operating system counts, so the longest path that can be walked has 4095 bytes of its own. -/
def maxPath : Nat := 4096

/-- Why a path leads nowhere. -/
inductive Fault where
  /-- The null character occurs in the path. -/
  | nul
  | errno (e : Errno)
  deriving DecidableEq, Repr

/-- Walks a route from the working directory `cwd`. The route as a whole is checked before its first
step: the null character comes first, so a path that has it and is too long is refused for it. -/
def walk (d : Disk) (last : LastLink) (cwd : Location) (r : Route) : Except Fault Arrival :=
  if r.hasNul then .error .nul
  else if r.size = 0 then .error (.errno .noEntry)
  else if maxPath ≤ r.size then .error (.errno .nameTooLong)
  else
    match d.follow last maxLinks (if r.rooted then [] else cwd) r.allSteps with
    | .ok a => .ok a
    | .error e => .error (.errno e)

end Disk

end ContractBuild
