import ContractBuild.Options
import ContractBuild.Settings.Lookup

/-!
# Settings

`NccsSettings` of the program: defaults that hold for every command, namely the engine, the
address version, and how the log is shown. A field given directly wins over an environment
variable, which wins over the settings file in the working directory. Unless something else is
asked for, the variable of a field is `NCCS_` and the field's name, in any letter case.

`read` collects the value of each field from the first place that has one and checks them
together. An empty text is a value, also for the engine: what an empty name of an engine means is
decided by the command that asks for the settings, not here. Reading may fail with something else
than an issue, where a settings file cannot be opened or is no text.

Settings are read anew whenever they are asked for, so one session may read them more than once.
-/

namespace ContractBuild

structure Settings where
  /-- The reference of the engine that is used when no other is named. -/
  engine : Option String := none
  addressVersion : UInt8 := defaultAddressVersion
  /-- The name of the least level that the log shows. -/
  logLevel : String := "WARNING"
  logJson : Bool := false
  deriving DecidableEq

namespace Settings

open Validation

/-- The fields of settings. -/
def fieldNames : List String := ["engine", "address_version", "log_level", "log_json"]

/-- The value of a field that is given directly. The letter case of its name never counts, not even
where it counts for variables; of several spellings the first one counts. -/
def givenField (given : List (Document × Document)) (field : String) : Option Document :=
  (given.find? fun m =>
    match m.1 with
    | .str name => lowerCase name = field
    | _ => false).map (·.2)

/-- The warnings about what the settings files state, in the order of their lines. -/
def fileWarnings (host : Host) (disk : Disk) : Except Failure (List String) := do
  let texts ← ({} : Lookup).fileTexts host disk
  return (texts.flatMap File.unreadableLines).map File.warning

/-- The values of the fields that have one. -/
def members (l : Lookup) (host : Host) (disk : Disk) (given : List (Document × Document)) :
    Except Failure (List (Document × Document)) := do
  let environment := host.environment.map fun v => (v.1, some v.2)
  let inFiles := Lookup.fileValues host (← l.fileTexts host disk)
  let folders ← l.existingFolders host disk
  fieldNames.filterMapM fun field => do
    let name := l.variableName field
    let own ← l.ownFileValue host disk folders name
    return (givenField given field <|> l.find? environment name <|> l.find? inFiles name <|>
      own).map fun v => (.str field, v)

/-- Checks the fields of settings. Fields that are no settings are ignored. -/
def ofMembers (ms : List (Document × Document)) : Checked Settings :=
  Settings.mk
    <$> optional ms "engine" none (nullable text)
    <*> optional ms "address_version" defaultAddressVersion byte
    <*> optional ms "log_level" "WARNING" text
    <*> optional ms "log_json" false boolean

/-- The settings in force, with fields that are given directly. -/
def read (host : Host) (disk : Disk) (given : List (Document × Document) := []) :
    Except Failure (Checked Settings) := do
  let l ← Lookup.ofMembers given
  return ofMembers (← members l host disk given)

end Settings

end ContractBuild
