import ContractBuild.Attempt
import ContractBuild.Disk.Access
import ContractBuild.Path.Absolute

/-!
# Hosts

The circumstances in which a run takes place: the working directory, the home directories, the
environment variables, and how the operating system behaves where the disk alone does not tell.

* `describe` gives the texts in which refusals are described. They go to the log, and a run that
  showed them to the user would depend on them (see `Proofs.Build.Details`).
* `cutoff?` tells where the writing of a content under a path is broken off. It is a function of
  the path and the content, so that the same write has the same end when it is done again.

A host does not change during a run. The disk does, and the working directory may be gone from it:
`directory` is then an error, and with it every run that needs a base for relative paths. `base`
asks for the working directory first even where the caller gave a base of their own, in the order
in which the program does (`classify_paths`, `_anchor_output`).
-/

namespace ContractBuild

structure Host where
  /-- The location of the working directory. A removed directory has names on the way to it that no
  disk holds. -/
  cwd : Location
  homes : Homes
  /-- Environment variables in their order. -/
  environment : List (String × String) := []
  /-- The text of a refusal, for the log. -/
  describe : Errno → String := fun e => "[Errno " ++ toString e.code ++ "]"
  /-- Where the writing of a content under a path is broken off, if it is. -/
  cutoff? : Path → Bytes → Option Disk.Cutoff := fun _ _ => none

namespace Host

/-- The host after the removal of a location. A working directory at or below it goes on without a
name, so that nothing that is created later can take its place. -/
def withoutLocation (h : Host) (l : Location) : Host :=
  if l.isPrefixOf h.cwd then
    { h with cwd := l.dropLast ++ (h.cwd.drop l.dropLast.length).map fun _ => "" }
  else h

/-- The working directory as a path. It must still exist: a process can stay in a directory that was
removed, but cannot tell where it is. -/
def directory (h : Host) (d : Disk) : Except Failure Path :=
  if d.get? h.cwd = some .folder then .ok (Path.ofComponents .root h.cwd)
  else .error (.system .noEntry)

/-- The failure of a leading `~`. -/
def homeFailure : Path.HomeFault → Failure
  | .unknown => .homeless
  | .nul => .nulInPath

/-- The absolute form of a path relative to a base directory. -/
def absolute (h : Host) (p base : Path) : Except Failure Path :=
  (p.absolute h.homes base).mapError homeFailure

/-- The path with a leading `~` replaced by the home directory that it names. -/
def expandHome (h : Host) (p : Path) : Except Failure Path :=
  (p.expandHome h.homes).mapError homeFailure

/-- No failure of a home directory is a request for an exit code. -/
theorem exitCode_homeFailure (e : Path.HomeFault) : (homeFailure e).exitCode = 1 := by
  cases e <;> rfl

theorem exitCode_of_absolute {h : Host} {p base : Path} {f : Failure}
    (hf : h.absolute p base = .error f) : f.exitCode = 1 := by
  obtain ⟨e, -, rfl⟩ := mapError_eq_error_iff.1 hf
  exact exitCode_homeFailure e

theorem exitCode_of_expandHome {h : Host} {p : Path} {f : Failure}
    (hf : h.expandHome p = .error f) : f.exitCode = 1 := by
  obtain ⟨e, -, rfl⟩ := mapError_eq_error_iff.1 hf
  exact exitCode_homeFailure e

/-- The directory against which relative paths are taken: `cwd` if one is given, else the working
directory. A `cwd` is itself taken relative to the working directory, which is asked for even where
`cwd` starts at the root, so that it must exist in any case. -/
def base (h : Host) (d : Disk) (cwd : Option String) : Except Failure Path :=
  match h.directory d, cwd with
  | .error e, _ => .error e
  | .ok p, none => .ok p
  | .ok p, some c => h.absolute (Path.ofText c) p

end Host

/-- The failure of a file operation. -/
def Disk.Fault.toFailure : Disk.Fault → Failure
  | .nul => .nulInPath
  | .errno e => .system e

end ContractBuild
