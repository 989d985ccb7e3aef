/-!
# Refusals of the file system

The reasons for which the operating system refuses an operation on a path, with the number and the
words that it has for each. Only the reasons that an operation of this library can give are
listed.

`meansAbsent` is the one place where reasons differ in what becomes of them. A test for existence
answers no for three of them and passes the others on, a name that is too long above all: that is
why the length of a path decides between a refusal of the program and an error that escapes from
it.
-/

namespace ContractBuild

inductive Errno where
  /-- Nothing exists under the name. -/
  | noEntry
  /-- Something already exists under the name. -/
  | alreadyExists
  /-- A component in the middle of the path is no directory. -/
  | notDirectory
  /-- The path names a directory where a file is needed. -/
  | isDirectory
  /-- The operation does not apply to the path. -/
  | notValid
  /-- The path names a directory that is not empty. -/
  | notEmpty
  /-- The device is full. -/
  | noSpace
  /-- A component or the whole path is too long. -/
  | nameTooLong
  /-- Too many symbolic links. -/
  | loop
  deriving DecidableEq, Repr

namespace Errno

/-- The number of the reason on Linux. -/
def code : Errno → Nat
  | noEntry => 2
  | alreadyExists => 17
  | notDirectory => 20
  | isDirectory => 21
  | notValid => 22
  | notEmpty => 39
  | noSpace => 28
  | nameTooLong => 36
  | loop => 40

/-- The words of the operating system for the reason. -/
def message : Errno → String
  | noEntry => "No such file or directory"
  | alreadyExists => "File exists"
  | notDirectory => "Not a directory"
  | isDirectory => "Is a directory"
  | notValid => "Invalid argument"
  | notEmpty => "Directory not empty"
  | noSpace => "No space left on device"
  | nameTooLong => "File name too long"
  | loop => "Too many levels of symbolic links"

/-- The reasons for which a test for existence answers no instead of failing. -/
def meansAbsent : Errno → Bool
  | noEntry | notDirectory | loop => true
  | _ => false

end Errno

end ContractBuild
