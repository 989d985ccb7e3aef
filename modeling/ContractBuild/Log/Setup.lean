import ContractBuild.Document.Display
import ContractBuild.Log.Threshold
import ContractBuild.Signature

/-!
# Log set-up

`configure_logging` of the program: which records are shown and in which form. The last
configuration is in force, for all records from then on. A level may be given by any of the names
that the log knows (`Log.Threshold`), and an unknown name counts as the default.
-/

namespace ContractBuild.Log

/-- The form in which records are shown. -/
inductive Renderer where
  | console
  | json
  deriving DecidableEq, Repr

structure Setup where
  /-- The least weight of a record that is shown. -/
  threshold : Nat
  renderer : Renderer := .console
  timestamps : Bool := true
  deriving DecidableEq, Repr

/-- What can be asked of a set-up. -/
structure Configuration where
  /-- The name of the least level that is shown. -/
  level : String := "WARNING"
  json : Bool := false
  timestamps : Bool := true

/-- The configuration that arguments by name ask for. -/
def Configuration.ofArguments (byName : List (String × Document)) :
    Except Misuse Configuration := do
  let signature : Signature :=
    { name := "configure_logging", optional := ["log_level", "json_format", "add_timestamp"] }
  let values ← signature.bind [] byName
  let default : Configuration := {}
  let level ← match values.lookup "log_level" with
    | none => pure default.level
    | some (.str s) => pure s
    | some d => throw (.noLevelName d.kindName)
  return {
    level
    json := ((values.lookup "json_format").map Document.isYes).getD default.json
    timestamps := ((values.lookup "add_timestamp").map Document.isYes).getD default.timestamps }

namespace Setup

/-- The set-up before anything is configured shows critical records only. -/
def initial : Setup := { threshold := Level.critical.weight }

/-- The set-up that a configuration asks for. -/
def of (c : Configuration) : Except Misuse Setup := do
  return {
    threshold := ← Log.threshold c.level
    renderer := if c.json then .json else .console
    timestamps := c.timestamps }

/-- The set-up after configurations one after another, `s` being the one before them. -/
def configure (s : Setup) : List Configuration → Except Misuse Setup
  | [] => .ok s
  | c :: cs => do configure (← of c) cs

/-- The set-up after configurations one after another, from the beginning. -/
def configured (cs : List Configuration) : Except Misuse Setup := initial.configure cs

/-- Whether a set-up shows records of a level. -/
def shows (s : Setup) (level : Level) : Bool := s.threshold ≤ level.weight

/-- The records that a set-up shows. -/
def shown (s : Setup) (rs : List Record) : List Record := rs.filter (·.passes s.threshold)

/-- The named values of a record as a set-up shows them: in the JSON form a trace is one of them. -/
def values (s : Setup) (r : Record) : List (String × Document) :=
  match s.renderer, r.trace with
  | .json, some t => r.fields ++ [("exception", .str t)]
  | _, _ => r.fields

/-- The text behind the line of a record: in the console form a trace stands on lines of its own. -/
def after (s : Setup) (r : Record) : String :=
  match s.renderer, r.trace with
  | .console, some t => t ++ "\n"
  | _, _ => ""

/-- The fields of a record, what happened first. -/
def fields (s : Setup) (r : Record) : List (String × Document) :=
  ("level", .str r.level.name) :: ("event", .str r.event) :: ("logger", .str r.logger) :: s.values r

/-- The text that shows a record. -/
def written (s : Setup) (r : Record) : String :=
  let line := match s.renderer with
    | .console => " ".intercalate ((s.fields r).map fun f => f.1 ++ "=" ++ f.2.display)
    | .json =>
      match (Document.ofFields (s.fields r)).toJson with
      | .ok text => text
      | .error e => e.message
  line ++ "\n" ++ s.after r

end Setup

end ContractBuild.Log
