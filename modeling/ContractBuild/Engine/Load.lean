import ContractBuild.Attempt
import ContractBuild.Engine.Universe

/-!
# Loading an engine

`load_engine` of the program. An engine is named by a reference `package.module:attribute`. The
attribute may be an engine, which is used as it is on every load, or a class or factory, which is
called anew on every load. Without a reference the registered entry point with the least name is
used, the earliest registered among equal names, and there is no second choice if that one cannot
be loaded.

The stages are functions of their own, in the order in which they fail: `resolveReference` (the
form of the reference, the import, the attribute; `_import_reference` of the program), `obtain`
(calling a class or factory) and the test that the result is an engine (`loadReference`). Each
refusal quotes the reference, and only the log tells more.

Not every failure is a refusal. An import that fails with another error than that of importing, an
attribute that fails with another error than that of a missing attribute, and whatever a class or
factory raises, go through as they are. An error of the class of requests to end the process is
one of these.

`Identity` tells loaded engines apart: one that a module holds is the same object every time, one
made by a call has a serial number of its own.
-/

namespace ContractBuild.Engine

/-- Which object an engine is: one held by a module, or one made by a call. -/
inductive Identity where
  | held (moduleName attr : String)
  | made (serial : Nat)
  deriving DecidableEq, Repr

/-- An engine together with the object that it is. -/
structure Loaded where
  engine : Engine
  identity : Identity

/-- Where engines are found. -/
structure Registry where
  modules : Universe := []
  /-- Registered names and references, in the order of registration. -/
  entryPoints : List (String × String) := []

/-- The refusal of a reference that is not of the form `package.module:attribute`. -/
def invalidReference (reference : String) : Refusal :=
  .engine ("Invalid engine reference '" ++ reference ++ "'. Expected 'package.module:attribute'.")

/-- The refusal of a reference whose module or attribute is missing. -/
def notAvailable (reference : String) : Refusal :=
  .engine ("Compilation engine '" ++ reference ++ "' is not available")

/-- The refusal of a reference that names no engine. -/
def notAnEngine (reference : String) : Refusal :=
  .engine ("'" ++ reference ++ "' is not a compilation engine")

/-- The refusal when nothing names an engine. -/
def notConfigured : Refusal :=
  .engine ("No compilation engine configured. Use --engine or set NCCS_ENGINE to "
    ++ "'package.module:attribute'.")

/-- Finds the attribute that a reference names: both sides of its first colon must be there, the
module is imported, and the module is asked for the attribute. Which errors count as missing differs
between the last two steps. -/
def resolveReference (r : Registry) (reference : String) :
    Attempt (String × String × Attribute) := do
  match splitReference reference with
  | (_, none) => Attempt.refuse (invalidReference reference)
  | (moduleName, some attr) =>
    if moduleName = "" || attr = "" then Attempt.refuse (invalidReference reference)
    else
      match Module.load r.modules [] moduleName with
      | (.error (.foreign x), _) =>
        if x.isImport then Attempt.refuse (notAvailable reference) x.details
        else Attempt.fail (.foreign x)
      | (.error f, _) => Attempt.fail f
      | (.ok m, imported) =>
        match m.get imported attr with
        | .ok a => return (moduleName, attr, a)
        | .error f =>
          if f.meansNoAttribute then
            Attempt.refuse (notAvailable reference)
              ("Module '" ++ moduleName ++ "' has no attribute '" ++ attr ++ "'")
          else Attempt.fail f

/-- The object that an attribute gives, made by a call if it is a class or factory. What the call
raises is passed on, and an object that could not be made has no number. -/
def obtain (moduleName attr : String) : Attribute → Attempt (Object × Identity)
  | .object o => return (o, .held moduleName attr)
  | .maker call => do
    let serial := (← get).made
    let o ← Attempt.ofExcept call
    modify fun t => { t with made := serial + 1 }
    return (o, .made serial)

/-- The record of an engine that was loaded. -/
def loadedRecord (reference : String) (e : Engine) : Log.Record where
  level := .debug
  event := "engine_loaded"
  logger := "nccs_core.engine"
  fields := [("reference", .str reference), ("engine", .str e.typeName)]

/-- Loads the engine that a reference names. An object without the entry points of an engine is
refused by the name of its type, which only the log tells. -/
def loadReference (r : Registry) (reference : String) : Attempt Loaded := do
  let (moduleName, attr, a) ← resolveReference r reference
  let (o, identity) ← obtain moduleName attr a
  match o with
  | .engine e =>
    Attempt.record (loadedRecord reference e)
    return ⟨e, identity⟩
  | o => Attempt.refuse (notAnEngine reference) ("Resolved object of type " ++ o.typeName)

/-- The entry point with the least name, the earliest registered among equal names. -/
def defaultEntryPoint (entryPoints : List (String × String)) : Option (String × String) :=
  (entryPoints.mergeSort fun a b => decide (a.1 ≤ b.1)).head?

/-- The record of an entry point that was chosen. -/
def selectedRecord (name reference : String) : Log.Record where
  level := .debug
  event := "engine_entry_point_selected"
  logger := "nccs_core.engine"
  fields := [("name", .str name), ("reference", .str reference)]

/-- Loads the engine that a reference names, or the default one. An empty reference is a reference,
and a malformed one. -/
def load (r : Registry) : Option String → Attempt Loaded
  | some reference => loadReference r reference
  | none =>
    match defaultEntryPoint r.entryPoints with
    | none => Attempt.refuse notConfigured
    | some (name, reference) => do
      Attempt.record (selectedRecord name reference)
      loadReference r reference

/-- Where a build takes its engine from. -/
inductive Source where
  | given (e : Engine)
  | reference (ref : Option String)

/-- The engine of a source. -/
def ofSource (r : Registry) : Source → Attempt Engine
  | .given e => return e
  | .reference ref => return (← load r ref).engine

end ContractBuild.Engine
