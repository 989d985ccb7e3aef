import ContractBuild.Outcome
import ContractBuild.Validation.Issue

/-!
# Errors of commands

`CLIError` of the program: how a command tells that it failed, by a message for the error channel
and the exit code of the process. Invalid fields are reported under the names by which the user
set them: an option of the compile command (`handle_validation_error`) or an environment variable
(`handle_settings_error`).

`ofOutcome` is what a command makes of the end of a build (`exit_for_outcome`). It is the only way
from the status of a build to the exit code of the process.
-/

namespace ContractBuild.Command

/-- A failure with a message and an exit code. -/
structure Error where
  message : String
  exitCode : Nat := 1
  deriving DecidableEq, Repr

/-- The flags of the compile command by which options are set. -/
def optionFlags : List (String × String) :=
  [("output_directory", "--output"), ("contract_name", "--contract-name"),
    ("emit_debug_info", "--debug"), ("emit_assembly", "--assembly"),
    ("disable_optimization", "--no-optimize"), ("disable_inlining", "--no-inline"),
    ("address_version", "--address-version")]

/-- The environment variables by which settings are set. -/
def settingVariables : List (String × String) :=
  [("engine", "NCCS_ENGINE"), ("address_version", "NCCS_ADDRESS_VERSION"),
    ("log_level", "NCCS_LOG_LEVEL"), ("log_json", "NCCS_LOG_JSON")]

/-- The error for invalid options. -/
def invalidOptions (issues : List Validation.Issue) : Error :=
  ⟨"Invalid compiler options:\n" ++ Validation.report optionFlags issues, 1⟩

/-- The error for invalid settings. -/
def invalidSettings (issues : List Validation.Issue) : Error :=
  ⟨"Invalid settings:\n" ++ Validation.report settingVariables issues, 1⟩

/-- What a command does with an outcome: success ends the process with code 0, everything else is
an error with the code of the outcome. -/
def ofOutcome (o : Outcome) : Except Error Unit :=
  if o.succeeded then .ok () else .error ⟨o.message, o.exitCode⟩

end ContractBuild.Command
