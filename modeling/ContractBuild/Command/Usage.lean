import ContractBuild.Text.Quoted

/-!
# Usage errors

What can be wrong with the arguments of a command, and how it is told. The framework behind the
program gives all of these the exit code 2; that they do not keep it is the matter of
`Interruption.asInputError`, which corresponds to `_as_input_error` of the program.
-/

namespace ContractBuild.Command

/-- Why an option does not take a value. -/
inductive BadValue where
  | notANumber (text : String)
  | notAByte (n : Int)
  | notAChoice (text : String) (choices : List String)
  /-- The path of a file was given for a directory. -/
  | notADirectory (path : String)
  deriving DecidableEq, Repr

def BadValue.message : BadValue → String
  | notANumber text => Text.quoted text ++ " is not a valid integer range."
  | notAByte n => toString n ++ " is not in the range 0<=x<=255."
  | notAChoice text choices =>
    Text.quoted text ++ " is not one of " ++ ", ".intercalate (choices.map Text.quoted) ++ "."
  | notADirectory path => "Directory " ++ Text.quoted path ++ " is a file."

inductive UsageError where
  | noSuchOption (name : String)
  | noSuchCommand (name : String)
  | missingCommand
  /-- The arguments end where the value of an option should stand. -/
  | missingValue (option : String)
  /-- A flag is given a value. -/
  | unexpectedValue (option : String)
  /-- An option, known by all its names, is given a value that it does not take. -/
  | badValue (names : List String) (reason : BadValue)
  deriving DecidableEq, Repr

def UsageError.message : UsageError → String
  | noSuchOption name => "No such option " ++ Text.quoted name ++ "."
  | noSuchCommand name => "No such command " ++ Text.quoted name ++ "."
  | missingCommand => "Missing command."
  | missingValue option => "Option " ++ Text.quoted option ++ " requires an argument."
  | unexpectedValue option => "Option " ++ Text.quoted option ++ " does not take a value."
  | badValue names reason =>
    "Invalid value for " ++ " / ".intercalate (names.map fun n => "'" ++ n ++ "'") ++ ": "
      ++ reason.message

end ContractBuild.Command
