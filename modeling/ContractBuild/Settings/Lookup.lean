import ContractBuild.Document.Paths
import ContractBuild.Host
import ContractBuild.Settings.Reference
import ContractBuild.Text.LowerCase

/-!
# Looking up settings

What decides where the values of settings come from, and the values found there: variables of the
environment, settings files, and directories that hold one file for each variable. `Lookup` says by
which names they are looked up; `Lookup.ofMembers` reads one from the fields of settings whose names
start with an underscore.
-/

namespace ContractBuild.Settings

/-- A text in lower case. -/
def lowerCase (s : String) : String := String.ofList (Text.lowerCase s.toList)

/-- How the values of settings are looked up. -/
structure Lookup where
  /-- The beginning of the name of every variable. -/
  start : String := "NCCS_"
  /-- The settings files, the last of which wins. -/
  files : List String := [".env"]
  /-- The directories of variables, the last of which wins. -/
  folders : List String := []
  /-- Whether the letter case of the names of variables counts. -/
  matchesCase : Bool := false
  /-- Whether an empty value counts as none. -/
  ignoresEmpty : Bool := false
  /-- The text that stands for null. -/
  nullText : Option String := none
  deriving DecidableEq, Repr

namespace Lookup

/-- The form of a name in which names are compared. -/
def key (l : Lookup) (name : String) : String := if l.matchesCase then name else lowerCase name

/-- The variable of a field, in the form in which names are compared. -/
def variableName (l : Lookup) (field : String) : String := l.key (l.start ++ field)

/-- The value of a variable. Of several spellings of its name the last one counts. -/
def find? (l : Lookup) (known : List (String × Option String)) (name : String) : Option Document :=
  let counted := known.filter fun v => !(l.ignoresEmpty && v.2 = some "")
  match counted.reverse.find? fun v => l.key v.1 = name with
  | some (_, some text) => some (if l.nullText = some text then .null else .str text)
  | _ => none

/-! ## Reading files -/

/-- The text of bytes. -/
def decode (b : Bytes) : Except Failure String :=
  match Text.decode? b, Text.fault? b with
  | some text, _ => .ok text
  | none, some f => .error (.misuse (.undecodable f))
  | none, none => .ok ""

/-- The text of a file; a file that does not exist is empty. -/
def fileText (host : Host) (disk : Disk) (p : Path) : Except Failure String := do
  match disk.isFile host.cwd p with
  | .error e => throw (.system e)
  | .ok false => return ""
  | .ok true => decode ((disk.content? host.cwd p).getD [])

/-- The texts of the settings files. -/
def fileTexts (l : Lookup) (host : Host) (disk : Disk) : Except Failure (List String) :=
  l.files.mapM fun name => do fileText host disk (← host.expandHome (.ofText name))

/-- The values that the texts of settings files give. -/
def fileValues (host : Host) (texts : List String) : List (String × Option String) :=
  texts.flatMap (File.values host.environment)

/-- The directories of variables that exist. -/
def existingFolders (l : Lookup) (host : Host) (disk : Disk) : Except Failure (List Path) := do
  let paths ← l.folders.mapM fun name => host.expandHome (.ofText name)
  let there ← paths.filterMapM fun p => do
    match disk.leadsTo (fun _ => true) host.cwd p with
    | .error e => throw (.system e)
    | .ok b => return if b then some p else none
  there.forM fun p => do
    match disk.isFolder host.cwd p with
    | .ok true => return
    | .ok false =>
      throw (.foreign {
        kind := "SettingsError", message := "secrets_dir must reference a directory, not a file" })
    | .error e => throw (.system e)
  return there

/-- The file of a variable in a directory. -/
def fileOf? (l : Lookup) (host : Host) (disk : Disk) (name : String) (folder : Path) :
    Option Path :=
  match disk.list host.cwd folder with
  | .ok names => (names.find? fun n => l.key n = name).map fun n => folder.join (.ofText n)
  | .error _ => none

/-- The value of a variable in a file of its own, without blanks around it. -/
def ownFileValue (l : Lookup) (host : Host) (disk : Disk) (folders : List Path) (name : String) :
    Except Failure (Option Document) := do
  let files ← (folders.reverse.filterMap (l.fileOf? host disk name)).filterM fun p =>
    (disk.isFile host.cwd p).mapError .system
  match files with
  | [] => return none
  | p :: _ =>
    let text ← decode ((disk.content? host.cwd p).getD [])
    return some (.str (String.ofList (Text.trim Text.isBlank text.toList)))

/-! ## Choosing how to look up -/

/-- The names of files: none, one, or several. -/
def fileNames : Document → Except Misuse (List String)
  | .null => .ok []
  | .str s => .ok [s]
  | d => do (← d.held).mapM Document.pathText

/-- The failure of a beginning of names that is no text. -/
def noStart : Failure :=
  .foreign
    { kind := "SettingsError"
      message := "error getting value for field \"engine\" from source \"EnvSettingsSource\"" }

/-- The way of looking up that the fields of settings ask for; null asks for the default, except for
the settings files, where it asks for none. -/
def ofMembers (ms : List (Document × Document)) : Except Failure Lookup := do
  let given (name : String) : Option Document :=
    match (Document.dict ms).get? name with
    | some .null => none
    | d => d
  let default : Lookup := {}
  let asks (name : String) (d : Bool) : Bool := ((given name).map Document.isYes).getD d
  let files ← match (Document.dict ms).get? "_env_file" with
    | some d => (fileNames d).mapError .misuse
    | none => pure default.files
  let folders ← match given "_secrets_dir" with
    | some d => (fileNames d).mapError .misuse
    | none => pure default.folders
  let start ← match given "_env_prefix" with
    | some (.str s) => pure s
    | some _ => throw noStart
    | none => pure default.start
  return {
    start, files, folders
    matchesCase := asks "_case_sensitive" default.matchesCase
    ignoresEmpty := asks "_env_ignore_empty" default.ignoresEmpty
    nullText := (given "_env_parse_none_str").bind Document.text? }

end Lookup

end ContractBuild.Settings
