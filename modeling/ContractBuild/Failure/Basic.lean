import ContractBuild.Disk.Errno
import ContractBuild.Document.Json
import ContractBuild.Failure.Refusal
import ContractBuild.Validation.Issue

/-!
# Failures

Everything that can end an operation before its result. The kinds of failure differ in who may
take them in:

* `refused`: the errors of the program's own hierarchy (`NccsError`). Only these are turned into
  an outcome by a build; every other failure escapes from it;
* `foreign`: an error raised by an engine, a module or the runtime. It keeps its class and the
  classes above it, because some of them mean that an engine is gone (`isUnavailable`), and its
  text, which goes to the log;
* `system`, `nulInPath`, `homeless`: what the operating system and the expansion of `~` say;
* `invalid`: fields that break rules, all of them at once;
* `misuse`: an operation on something that it does not apply to.

A foreign error may be a request to end the process, and then names the exit code (`exits?`).
Nobody in the program takes such a request in, so the process ends with that code: the lowest byte
of it counts (`Failure.exitCode`). Every other failure that escapes has the exit code 1.

The lemmas at the end are about `Except`: when a chain of stages ends in a result or in an error.
-/

namespace ContractBuild

/-- An error raised outside this library: the class that it belongs to and its text. -/
structure Foreign where
  kind : String
  message : String
  /-- Classes from which the class is derived, where its name alone does not tell. -/
  bases : List String := []
  /-- The exit code that the error asks for, if it is a request to end the process. -/
  exits? : Option Int := none
  deriving DecidableEq, Repr

namespace Foreign

/-- The classes of errors raised when something cannot be imported. -/
def importKinds : List String := ["ImportError", "ModuleNotFoundError"]

/-- The classes of errors raised when a connection fails. -/
def connectionKinds : List String :=
  ["ConnectionError", "ConnectionRefusedError", "ConnectionResetError", "ConnectionAbortedError",
    "BrokenPipeError"]

/-- The classes of errors raised when something lacks an attribute. -/
def attributeKinds : List String := ["AttributeError"]

/-- Whether an error belongs to one of some classes, by its own class or by one that this is derived
from. -/
def isOf (kinds : List String) (x : Foreign) : Bool := (x.kind :: x.bases).any kinds.contains

def isImport (x : Foreign) : Bool := x.isOf importKinds

/-- Whether an error means that the service or library behind an engine is gone. -/
def isUnavailable (x : Foreign) : Bool := x.isImport || x.isOf connectionKinds

/-- An error as the log shows it. -/
def details (x : Foreign) : String := x.kind ++ ": " ++ x.message

end Foreign

/-- Use of an operation on something it does not apply to. -/
inductive Misuse where
  /-- A directory was to be compiled before it was scanned. -/
  | directoryMode
  /-- A mode of an unknown type was to be compiled. -/
  | unknownMode (typeName : String)
  /-- Artifacts of an unsuccessful compilation were to be written. -/
  | unsuccessful
  /-- Artifacts without a contract name were to be written. -/
  | nameless
  /-- A number that is no byte in an executable. -/
  | byteRange
  /-- A negative number of zero bytes. -/
  | negativeCount
  /-- A count beyond the numbers that count. -/
  | hugeCount
  /-- More zero bytes than anything can hold. -/
  | tooManyBytes
  /-- More repeats of a text than anything can hold. -/
  | tooManyRepeats
  /-- Less than anything can hold, and yet more than there is room for. -/
  | outOfMemory
  /-- A text where bytes belong. -/
  | textAsBytes
  /-- A value that is no bytes. -/
  | notBytes (kind : String)
  /-- A value inside a list of bytes that is no number. -/
  | notByte (kind : String)
  /-- A value that is no text. -/
  | notText (kind : String)
  /-- A key of a dictionary that may change, which no key can. -/
  | unhashable (kind : String)
  /-- A message that is no text. -/
  | notMessage (kind : String)
  /-- A document without a JSON form. -/
  | unwritable (reason : Unwritable)
  /-- A module name that starts with a point. -/
  | relativeModule (name : String)
  /-- A reference without a module name. -/
  | emptyModule
  /-- A module without the attribute that a reference names; the module may have no name. -/
  | noAttribute (moduleName : Option String) (attr : String)
  /-- Something without the entry point that it is to be called at. -/
  | noEntryPoint (typeName method : String)
  /-- A lazy command that is no command. -/
  | notCommand (name reference : String)
  /-- Something that is no class in the place of a record's class. -/
  | notClass (kind : String)
  /-- Something that is no dictionary in the place of a record's attributes. -/
  | notAttributes (kind : String)
  /-- The name of an attribute that is no text. -/
  | notAttributeName (kind : String)
  /-- An attribute that a record computes and that nothing can set. -/
  | noSetter (attr typeName : String)
  /-- An attribute that a record keeps to itself. -/
  | notWritable (attr typeName : String)
  /-- A stream that was closed before. -/
  | closedStream
  /-- Bytes that are no text in the place of a text. -/
  | undecodable (fault : Text.Fault)
  /-- A value that is no path. -/
  | notPath (kind : String)
  /-- A value that holds no further values in the place of a list. -/
  | notList (kind : String)
  /-- A value that holds no further values in the place of the arguments of a call. -/
  | notArguments (callable kind : String)
  /-- A value that is no dictionary in the place of the fields of a record. -/
  | notFields (typeName kind : String)
  /-- A text that is no name of a log level. -/
  | unknownLevel (text : String)
  /-- Something that cannot be a log level. -/
  | noLevel (shown : String)
  /-- A value that is no text in the place of a log level's name. -/
  | noLevelName (kind : String)
  /-- An argument for a parameter that does not exist. -/
  | unexpectedArgument (callable name : String)
  /-- A second argument for a parameter. -/
  | repeatedArgument (callable name : String)
  /-- More arguments in a row than there are parameters. -/
  | surplusArguments (callable : String) (least most given byName : Nat)
  /-- Parameters without an argument. -/
  | missingArguments (callable : String) (names : List String)
  deriving DecidableEq, Repr

namespace Misuse

/-- The ending of a noun that is counted. -/
def plural (n : Nat) : String := if n = 1 then "" else "s"

/-- Names in a row, the last two of them joined by a word. -/
def enumeration : List String → String
  | [] => ""
  | [a] => a
  | [a, b] => a ++ " and " ++ b
  | [a, b, c] => a ++ ", " ++ b ++ ", and " ++ c
  | a :: rest => a ++ ", " ++ enumeration rest

/-- How many arguments in a row are taken, and how many were given. -/
def surplus (least most given byName : Nat) : String :=
  let taken := if least = most then toString most
    else "from " ++ toString least ++ " to " ++ toString most
  let named := if byName = 0 then "" else
    " positional argument" ++ plural given ++ " (and " ++ toString byName
      ++ " keyword-only argument" ++ plural byName ++ ")"
  taken ++ " positional argument" ++ (if least = most then plural most else "s") ++ " but "
    ++ toString given ++ named ++ (if given = 1 && byName = 0 then " was given" else " were given")

/-- Which bytes are no text. -/
def undecoded (f : Text.Fault) : String :=
  "'utf-8' codec can't decode " ++
    match f.bad with
    | [b] =>
      "byte 0x" ++ String.ofList (Text.hexDigits 2 b.toNat) ++ " in position "
        ++ toString f.position
    | bad =>
      "bytes in position " ++ toString f.position ++ "-"
        ++ toString (f.position + bad.length - 1)

def message : Misuse → String
  | directoryMode => "DirectoryMode must be resolved before compiling"
  | unknownMode typeName => "Unsupported compilation mode: " ++ typeName
  | unsuccessful => "Cannot write artifacts for an unsuccessful compilation"
  | nameless => "Cannot write artifacts without a contract name"
  | byteRange => "bytes must be in range(0, 256)"
  | negativeCount => "negative count"
  | hugeCount => "cannot fit 'int' into an index-sized integer"
  | tooManyBytes => "byte string is too large"
  | tooManyRepeats => "repeated string is too long"
  | outOfMemory => ""
  | textAsBytes => "string argument without an encoding"
  | notBytes kind => "cannot convert '" ++ kind ++ "' object to bytes"
  | notByte kind => "'" ++ kind ++ "' object cannot be interpreted as an integer"
  | notText kind => "data must be str, not " ++ kind
  | unhashable kind => "unhashable type: '" ++ kind ++ "'"
  | notMessage kind => "expected string or bytes-like object, got '" ++ kind ++ "'"
  | unwritable reason => reason.message
  | relativeModule name =>
    "the 'package' argument is required to perform a relative import for " ++ Text.quoted name
  | emptyModule => "Empty module name"
  | noAttribute (some moduleName) attr =>
    "module '" ++ moduleName ++ "' has no attribute '" ++ attr ++ "'"
  | noAttribute none attr => "module has no attribute '" ++ attr ++ "'"
  | noEntryPoint typeName method =>
    "'" ++ typeName ++ "' object has no attribute '" ++ method ++ "'"
  | notCommand name reference =>
    "Lazy command '" ++ name ++ "' (" ++ reference ++ ") is not a click command"
  | notClass kind => "__class__ must be set to a class, not '" ++ kind ++ "' object"
  | notAttributes kind => "__dict__ must be set to a dictionary, not a '" ++ kind ++ "'"
  | notAttributeName kind => "attribute name must be string, not '" ++ kind ++ "'"
  | noSetter attr typeName =>
    "property '" ++ attr ++ "' of '" ++ typeName ++ "' object has no setter"
  | notWritable attr typeName =>
    "attribute '" ++ attr ++ "' of '" ++ typeName ++ "' objects is not writable"
  | closedStream => "I/O operation on closed file"
  | undecodable f => undecoded f ++ ": " ++ f.reason.message
  | notPath kind => "expected str, bytes or os.PathLike object, not " ++ kind
  | notList kind => "'" ++ kind ++ "' object is not iterable"
  | notArguments callable kind =>
    callable ++ "() argument after * must be an iterable, not " ++ kind
  | notFields typeName kind =>
    "nccs_core.models." ++ typeName ++ "() argument after ** must be a mapping, not " ++ kind
  | unknownLevel text => "Unknown level: " ++ Text.quoted text
  | noLevel shown => "Level not an integer or a valid string: " ++ shown
  | noLevelName kind => "'" ++ kind ++ "' object has no attribute 'upper'"
  | unexpectedArgument callable name =>
    callable ++ "() got an unexpected keyword argument '" ++ name ++ "'"
  | repeatedArgument callable name =>
    callable ++ "() got multiple values for argument '" ++ name ++ "'"
  | surplusArguments callable least most given byName =>
    callable ++ "() takes " ++ surplus least most given byName
  | missingArguments callable names =>
    callable ++ "() missing " ++ toString names.length ++ " required positional argument"
      ++ plural names.length ++ ": " ++ enumeration (names.map Text.quoted)

end Misuse

/-- Why an operation ended without a result. -/
inductive Failure where
  | refused (r : Refusal)
  | foreign (x : Foreign)
  | system (e : Errno)
  /-- A path with the null character was to be opened. -/
  | nulInPath
  /-- A leading `~` names no home directory. -/
  | homeless
  | invalid (issues : List Validation.Issue)
  | misuse (m : Misuse)
  deriving DecidableEq, Repr

/-- Whether a failure means that something has no attribute of some name, or none that can be
set. -/
def Failure.meansNoAttribute : Failure → Bool
  | misuse (.noAttribute _ _) | misuse (.noEntryPoint _ _) | misuse (.noLevelName _)
  | misuse (.noSetter _ _) | misuse (.notWritable _ _) => true
  | foreign x => x.isOf Foreign.attributeKinds
  | _ => false

/-- The exit code of a process that a failure ends. A request to end the process names a code, of
which the lowest byte counts; every other failure has the code 1. -/
def Failure.exitCode : Failure → Nat
  | foreign x => x.exits?.elim 1 fun code => (code % 256).toNat
  | _ => 1

/-- A failure as a message shows it. -/
def Failure.message : Failure → String
  | refused r => r.message
  | foreign x => x.details
  | system e => e.message
  | nulInPath => "embedded null byte"
  | homeless => "Could not determine home directory."
  | invalid issues => Validation.report [] issues
  | misuse m => m.message

/-! ## Results -/

variable {ε ε' α β : Type}

instance decidableEqExcept [DecidableEq ε] [DecidableEq α] : DecidableEq (Except ε α)
  | .ok a, .ok b => decidable_of_iff (a = b) ⟨congrArg _, Except.ok.inj⟩
  | .error a, .error b => decidable_of_iff (a = b) ⟨congrArg _, Except.error.inj⟩
  | .ok _, .error _ => .isFalse nofun
  | .error _, .ok _ => .isFalse nofun

@[simp] theorem mapError_ok (f : ε → ε') (a : α) :
    (Except.ok a : Except ε α).mapError f = .ok a := rfl

@[simp] theorem mapError_error (f : ε → ε') (e : ε) :
    (Except.error e : Except ε α).mapError f = .error (f e) := rfl

theorem mapError_eq_ok_iff {f : ε → ε'} {x : Except ε α} {a : α} :
    x.mapError f = .ok a ↔ x = .ok a := by
  cases x <;> simp

theorem mapError_eq_error_iff {f : ε → ε'} {x : Except ε α} {e' : ε'} :
    x.mapError f = .error e' ↔ ∃ e, x = .error e ∧ f e = e' := by
  cases x <;> simp

/-- Two stages have a result if the first has one from which the second goes on. -/
theorem bind_eq_ok_iff {x : Except ε α} {f : α → Except ε β} {b : β} :
    x >>= f = .ok b ↔ ∃ a, x = .ok a ∧ f a = .ok b := by
  cases x <;> simp [bind, Except.bind]

/-- Two stages fail if the first fails, or the second after it. -/
theorem bind_eq_error_iff {x : Except ε α} {g : α → Except ε β} {e : ε} :
    x >>= g = .error e ↔ x = .error e ∨ ∃ a, x = .ok a ∧ g a = .error e := by
  cases x <;> simp [bind, Except.bind]

/-- The first element that fails decides. -/
theorem mapM_eq_error_iff {g : α → Except ε β} {as : List α} {f : ε} :
    as.mapM g = .error f ↔ ∃ before a after, as = before ++ a :: after
      ∧ (∀ b ∈ before, ∃ c, g b = .ok c) ∧ g a = .error f := by
  induction as with
  | nil => simp [pure, Except.pure]
  | cons a as ih =>
    rw [List.mapM_cons, bind_eq_error_iff]
    constructor
    · rintro (ha | ⟨c, ha, h⟩)
      · exact ⟨[], a, as, rfl, by simp, ha⟩
      · rcases bind_eq_error_iff.1 h with hrest | ⟨_, -, h⟩
        · obtain ⟨before, b, after, rfl, hbefore, hb⟩ := ih.1 hrest
          exact ⟨a :: before, b, after, rfl, List.forall_mem_cons.2 ⟨⟨c, ha⟩, hbefore⟩, hb⟩
        · simp [pure, Except.pure] at h
    · rintro ⟨before, b, after, hsplit, hbefore, hb⟩
      cases before with
      | nil =>
        obtain ⟨rfl, -⟩ := List.cons.inj hsplit
        exact .inl hb
      | cons a' before =>
        obtain ⟨rfl, hlater⟩ := List.cons.inj hsplit
        obtain ⟨⟨c, hc⟩, hbefore⟩ := List.forall_mem_cons.1 hbefore
        have hrest := ih.2 ⟨before, b, after, hlater, hbefore, hb⟩
        exact .inr ⟨c, hc, bind_eq_error_iff.2 (.inl hrest)⟩

theorem map_eq_ok_iff {f : α → β} {x : Except ε α} {b : β} :
    x.map f = .ok b ↔ ∃ a, x = .ok a ∧ f a = b := by
  cases x <;> simp [Except.map]

theorem map_eq_error_iff {f : α → β} {x : Except ε α} {e : ε} :
    x.map f = .error e ↔ x = .error e := by
  cases x <;> simp [Except.map]

/-- What an effectful map gives comes from its list, and everything in the list gives something. -/
theorem mapM_matches {f : α → Except ε β} {as : List α} {bs : List β} (h : as.mapM f = .ok bs) :
    (∀ b ∈ bs, ∃ a ∈ as, f a = .ok b) ∧ ∀ a ∈ as, ∃ b ∈ bs, f a = .ok b := by
  induction as generalizing bs with
  | nil =>
    obtain rfl := Except.ok.inj h
    simp
  | cons a as ih =>
    rw [List.mapM_cons] at h
    obtain ⟨first, hfirst, h⟩ := bind_eq_ok_iff.1 h
    obtain ⟨rest, hrest, h⟩ := bind_eq_ok_iff.1 h
    obtain rfl := Except.ok.inj h
    obtain ⟨hfrom, hto⟩ := ih hrest
    constructor
    · refine List.forall_mem_cons.2 ⟨⟨a, List.mem_cons_self .., hfirst⟩, fun b hb => ?_⟩
      obtain ⟨a', ha', hf⟩ := hfrom b hb
      exact ⟨a', List.mem_cons_of_mem _ ha', hf⟩
    · refine List.forall_mem_cons.2 ⟨⟨first, List.mem_cons_self .., hfirst⟩, fun a' ha' => ?_⟩
      obtain ⟨b, hb, hf⟩ := hto a' ha'
      exact ⟨b, List.mem_cons_of_mem _ hb, hf⟩

end ContractBuild
