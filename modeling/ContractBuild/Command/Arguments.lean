import ContractBuild.Command.Usage

/-!
# Reading arguments

A long option is `--name`, with its value behind an equals sign or in the next argument. Short
options are letters behind one dash; several flags may share a dash, and the rest of the argument
behind a letter that takes a value is the value. `--` ends the options. Options and other
arguments may be mixed, unless the reader is told to stop at the first other argument.

The reader is generic in the options of a command (`OptionSpec`), and so are the theorems about
it: the program and both commands read their arguments by the same function. Of an option that
occurs several times all occurrences are kept, in order. That the last value counts, and that
checks are made in the order of first occurrences, is for the commands to say (`value?`, `keys`).

Help is an option like any other here. Long options are not completed from their beginnings, and
an argument that only looks like a negative number is an option.
-/

namespace ContractBuild.Command

/-- An option that a command knows. -/
structure OptionSpec (κ : Type) where
  key : κ
  /-- The name behind two dashes. -/
  long : String
  /-- The letter behind one dash. -/
  short : Option Char := none
  takesValue : Bool := false
  deriving DecidableEq

namespace OptionSpec

/-- The names of an option, dashes included, the short one first. -/
def names {κ : Type} (o : OptionSpec κ) : List String :=
  (o.short.map fun c => String.ofList ['-', c]).toList ++ ["--" ++ o.long]

end OptionSpec

/-- An option as it occurs among the arguments. -/
structure Occurrence (κ : Type) where
  key : κ
  value : Option String := none
  deriving DecidableEq, Repr

/-- What one argument says. -/
inductive Reading (κ : Type) where
  | complete (options : List (Occurrence κ))
  /-- The value of the last option is the next argument. -/
  | awaiting (options : List (Occurrence κ)) (key : κ) (name : String)
  deriving Repr

/-- Arguments that have been read. -/
structure Arguments (κ : Type) where
  /-- The options in the order in which they occur. -/
  options : List (Occurrence κ) := []
  /-- All other arguments. -/
  others : List String := []
  deriving Repr

namespace Reading

variable {κ : Type}

/-- Adds an option in front. -/
def cons (o : Occurrence κ) : Reading κ → Reading κ
  | complete os => complete (o :: os)
  | awaiting os key name => awaiting (o :: os) key name

/-- Reads the letters behind a dash. -/
def ofLetters (specs : List (OptionSpec κ)) : List Char → Except UsageError (Reading κ)
  | [] => .ok (.complete [])
  | c :: cs =>
    let name := String.ofList ['-', c]
    match specs.find? (·.short = some c) with
    | none => .error (.noSuchOption name)
    | some o =>
      if o.takesValue then
        if cs.isEmpty then .ok (.awaiting [] o.key name)
        else .ok (.complete [⟨o.key, some (String.ofList cs)⟩])
      else (ofLetters specs cs).map (cons ⟨o.key, none⟩)

/-- Reads a long option: its name, dashes included, and the value behind an equals sign. -/
def ofLong (o : OptionSpec κ) (name : String) (value : Option String) :
    Except UsageError (Reading κ) :=
  match o.takesValue, value with
  | true, some v => .ok (.complete [⟨o.key, some v⟩])
  | true, none => .ok (.awaiting [] o.key name)
  | false, none => .ok (.complete [⟨o.key, none⟩])
  | false, some _ => .error (.unexpectedValue name)

/-- The part of an argument before an equals sign, and the value behind it. -/
def splitValue (cs : List Char) : String × Option String :=
  let name := String.ofList (cs.takeWhile (· ≠ '='))
  match cs.dropWhile (· ≠ '=') with
  | _ :: value => (name, some (String.ofList value))
  | [] => (name, none)

/-- Reads an argument that starts with a dash. -/
def ofArgument (specs : List (OptionSpec κ)) (arg : List Char) : Except UsageError (Reading κ) :=
  let (name, value) := splitValue arg
  match specs.find? fun o => "--" ++ o.long = name with
  | some o => ofLong o name value
  | none =>
    match arg with
    | '-' :: '-' :: _ => .error (.noSuchOption name)
    | _ => ofLetters specs arg.tail

end Reading

namespace Arguments

variable {κ : Type}

/-- Adds options in front. -/
def addOptions (os : List (Occurrence κ)) (as : Arguments κ) : Arguments κ :=
  { as with options := os ++ as.options }

/-- Adds another argument in front. -/
def addOther (arg : String) (as : Arguments κ) : Arguments κ :=
  { as with others := arg :: as.others }

/-- Whether an argument is an option. A dash alone is none. -/
def isOption (arg : String) : Bool :=
  match arg.toList with
  | '-' :: _ :: _ => true
  | _ => false

/-- Reads arguments. If they are not `mixed`, the first argument that is no option ends the
options. -/
def read (specs : List (OptionSpec κ)) (mixed : Bool) :
    List String → Except UsageError (Arguments κ)
  | [] => .ok {}
  | arg :: args =>
    if arg = "--" then .ok { others := args }
    else if isOption arg then
      match Reading.ofArgument specs arg.toList with
      | .error e => .error e
      | .ok (.complete os) => (read specs mixed args).map (addOptions os)
      | .ok (.awaiting os key name) =>
        match args with
        | [] => .error (.missingValue name)
        | value :: args => (read specs mixed args).map (addOptions (os ++ [⟨key, some value⟩]))
    else if mixed then (read specs mixed args).map (addOther arg)
    else .ok { others := arg :: args }

variable [DecidableEq κ]

/-- Whether an option occurs. -/
def has (as : Arguments κ) (key : κ) : Bool := as.options.any (·.key = key)

/-- The value of an option. Its last occurrence counts. -/
def value? (as : Arguments κ) (key : κ) : Option String :=
  ((as.options.reverse.find? (·.key = key)).bind (·.value))

/-- The options that occur, each once, in the order of their first occurrence. -/
def keys (as : Arguments κ) : List κ := (as.options.map (·.key)).eraseDups

end Arguments

end ContractBuild.Command
