import ContractBuild.Failure.Basic

/-!
# Signatures

The parameters of what is made from arguments, and which arguments fit them. Arguments in a row fill
the first parameters; others are given by name. Faults are looked for in this order: a name that is
no parameter or whose parameter has its value already, too many arguments in a row, and parameters
left without a value.
-/

namespace ContractBuild

structure Signature where
  /-- The name that messages show. -/
  name : String
  /-- The first parameters, which have their values before any argument. -/
  filled : List String := []
  /-- The parameters that need an argument. -/
  required : List String := []
  /-- The parameters after them, which may be left out. -/
  optional : List String := []
  /-- The parameters that are given by name or not at all. -/
  named : List String := []

namespace Signature

variable {α : Type}

/-- The parameters that arguments in a row fill. -/
def ordered (s : Signature) : List String := s.required ++ s.optional

/-- Checks the names of arguments, `taken` being the parameters that have their values already. -/
def checkNames (s : Signature) (taken : List String) : List String → Except Misuse Unit
  | [] => .ok ()
  | k :: rest =>
    if !(s.filled ++ s.ordered ++ s.named).contains k then .error (.unexpectedArgument s.name k)
    else if taken.contains k then .error (.repeatedArgument s.name k)
    else checkNames s (k :: taken) rest

/-- The values of parameters that arguments in a row and arguments by name give. -/
def bind (s : Signature) (args : List α) (byName : List (String × α)) :
    Except Misuse (List (String × α)) := do
  let byPlace := s.ordered.zip args
  s.checkNames (s.filled ++ byPlace.map (·.1)) (byName.map (·.1))
  let given := byPlace ++ byName
  let isGiven (k : String) : Bool := (given.lookup k).isSome
  if s.ordered.length < args.length then
    throw (.surplusArguments s.name (s.filled.length + s.required.length)
      (s.filled.length + s.ordered.length) (s.filled.length + args.length)
      (s.named.filter isGiven).length)
  let missing := s.required.filter fun k => !isGiven k
  if missing.isEmpty then return given else throw (.missingArguments s.name missing)

end Signature

end ContractBuild
