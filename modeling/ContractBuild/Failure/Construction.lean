import ContractBuild.Document.Display
import ContractBuild.Log.Record
import ContractBuild.Signature

/-!
# Making refusals

Each kind of refusal is made from a message or from what it is about; technical details are given
by name and go to the log only. The arguments may be values of any kind, which the refusal keeps as
they are and shows as messages show them.
-/

namespace ContractBuild.Refusal

/-- A refusal made from values of any kind. -/
structure Made where
  /-- The name of the kind of refusal. -/
  kind : String
  message : Document
  /-- What the refusal is about: a field and its value. -/
  subject : Option (String × Document) := none
  details : Document := .null

/-- The parameters of a kind of refusal. -/
def signature (kind : String) : Signature :=
  match kind with
  | "InputValidationError" =>
    { name := "InputValidationError.__init__", filled := ["self"], required := ["user_message"],
      named := ["path", "internal_details"] }
  | "NoSourceFoundError" =>
    { name := "NoSourceFoundError.__init__", filled := ["self"], required := ["directory"],
      named := ["internal_details"] }
  | "CompilationFailure" =>
    { name := "CompilationFailure.__init__", filled := ["self"], optional := ["user_message"] }
  | "ArtifactWriteError" =>
    { name := "ArtifactWriteError.__init__", filled := ["self"], required := ["path"],
      named := ["internal_details"] }
  | _ =>
    { name := "NccsError.__init__", filled := ["self"], required := ["user_message"],
      named := ["internal_details"] }

namespace Made

/-- The refusal of a kind with the values of its parameters. -/
def ofValues (kind : String) (values : List (String × Document)) : Made :=
  let value (name : String) : Document := (values.lookup name).getD .null
  let details := value "internal_details"
  match kind with
  | "InputValidationError" =>
    { kind, message := value "user_message", subject := some ("path", value "path"), details }
  | "NoSourceFoundError" =>
    { kind, message := .str (noSource (value "directory").display).message
      subject := some ("directory", value "directory"), details }
  | "CompilationFailure" =>
    { kind, message := (values.lookup "user_message").getD (.str failedCompilation.message) }
  | "ArtifactWriteError" =>
    { kind, message := .str (unwritable (value "path").display).message
      subject := some ("path", value "path"), details }
  | _ => { kind, message := value "user_message", details }

/-- The refusal that arguments make. -/
def ofArguments (kind : String) (args : List Document) (byName : List (String × Document)) :
    Except Misuse Made := do
  return ofValues kind (← (signature kind).bind args byName)

/-- The exit code that the refusal asks for. -/
def exitCode (m : Made) : Nat :=
  if m.kind = (noSource "").typeName then (noSource "").exitCode else (general "").exitCode

/-- The records that making the refusal writes: one if there are details. -/
def records (m : Made) : List Log.Record :=
  if m.details.isYes then
    [{ level := .error, event := "nccs_error", logger := "nccs_core.errors"
       fields := [("error_type", .str m.kind), ("user_message", m.message),
         ("internal_details", m.details)] }]
  else []

end Made

end ContractBuild.Refusal
