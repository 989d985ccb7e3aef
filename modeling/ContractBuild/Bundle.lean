import ContractBuild.Diagnostic
import ContractBuild.Document.Display

/-!
# Bundles

`ArtifactBundle` of the program: the result of compiling source text in memory, with the
executable, the manifest and the diagnostics. `success` is read off the diagnostics here, since
nothing else is left of the engine's verdict.

A manifest must be a dictionary whose keys are texts. It is checked key by key (`checkManifest`),
all issues are reported, and keys that become equal as texts are one member, the later value in
the place of the earlier one.
-/

namespace ContractBuild

structure Bundle where
  executable : Bytes := []
  /-- The members of the manifest, all with text keys. -/
  manifest : List (Document × Document) := []
  diagnostics : List Diagnostic := []

namespace Bundle

/-- Whether no diagnostic is an error. -/
def success (b : Bundle) : Bool := !b.diagnostics.any Diagnostic.isError

open Validation

/-- A key as a step in the place of an issue. -/
def keyPlace : Document → Place
  | .str s => .field s
  | .bool b => .index (if b then 1 else 0)
  | .int i => if fits64 i then .index i else .field (toString i)
  | d => .field d.literal

/-- The members of a dictionary, whose keys must be texts. -/
def manifestMembers : List (Document × Document) → Checked (List (Document × Document))
  | [] => .valid []
  | (k, v) :: ms =>
    (fun key rest => (Document.str key, v) :: rest)
      <$> ((text k).under (.field "[key]")).under (keyPlace k)
      <*> manifestMembers ms

/-- A manifest: a dictionary with text keys. Keys that become equal as texts are one member. -/
def checkManifest : Check (List (Document × Document))
  | .dict ms =>
    (manifestMembers ms).map fun ms => ms.foldl (fun d m => Document.insert d m.1 m.2) []
  | _ => .broken .dictionary

/-- Checks the fields of a bundle. -/
def ofMembers (ms : List (Document × Document)) : Checked Bundle :=
  Bundle.mk
    <$> optional ms "nef" [] bytes
    <*> optional ms "manifest" [] checkManifest
    <*> optional ms "diagnostics" [] (sequence Diagnostic.check)
    <* noOthers ms ["nef", "manifest", "diagnostics"]

/-- A bundle read from a dictionary of its fields. -/
def check : Check Bundle := record "ArtifactBundle" ofMembers

end Bundle

end ContractBuild
