import ContractBuild.Console
import ContractBuild.Signature

/-!
# Making errors of commands

An error of a command is made from a message and, if there is a second argument, an exit code. The
exit code may be a value of any kind; only a text can be shown as the message.
-/

namespace ContractBuild.Command

/-- An error of a command made from values of any kind. -/
structure Error.Made where
  message : String
  exitCode : Document

namespace Error.Made

def signature : Signature :=
  { name := "CLIError.__init__", filled := ["self"], required := ["message"],
    optional := ["exit_code"] }

/-- The error that arguments make. -/
def ofArguments (args : List Document) : Except Misuse Error.Made := do
  let values ← signature.bind args []
  match values.lookup "message" with
  | some (.str message) => return { message, exitCode := (values.lookup "exit_code").getD (.int 1) }
  | d => throw (.notMessage (d.getD .null).kindName)

/-- The console after the error was shown. -/
def shown (e : Error.Made) : Console := ({} : Console).print (.marked .error e.message)

end Error.Made

end ContractBuild.Command
