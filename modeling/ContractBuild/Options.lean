import ContractBuild.Text.Loose
import ContractBuild.Validation.Scalar

/-!
# Compiler options

`CompilerOptions` of the program, the configuration of one compilation: where artifacts go, under
which name, which optional artifacts are written and what the engine is asked to skip. Engines see
the options as the caller gave them; that the output directory becomes absolute before anything is
written is the build's business (`Build.anchorOutput`).

`check` reads options from a record of fields. Every field has a default, a field that is no
option is an issue, and all issues are reported at once in the order of the fields.

The contract name is the one text that may be loose, because options can also be made by a caller
who got the name from the operating system. Read from a record it is always sound (`name`).
-/

namespace ContractBuild

/-- The address version of the default network. -/
def defaultAddressVersion : UInt8 := 0x35

structure Options where
  /-- The destination folder; by default `bin/sc` in the source folder. -/
  outputDirectory : Option Path := none
  /-- Overrides the contract name. -/
  contractName : Option Text.Raw := none
  /-- Whether the debug archive is written. -/
  emitDebugInfo : Bool := false
  /-- Whether the assembly listing is written. -/
  emitAssembly : Bool := false
  disableOptimization : Bool := false
  disableInlining : Bool := false
  /-- The version byte of network addresses. -/
  addressVersion : UInt8 := defaultAddressVersion
  deriving DecidableEq

namespace Options

open Validation

/-- A name. The fields of a record hold no other texts than sound ones. -/
def name : Check Text.Raw := fun d => (text d).map .sound

/-- Checks the fields of options. -/
def ofMembers (ms : List (Document × Document)) : Checked Options :=
  Options.mk
    <$> optional ms "output_directory" none (nullable path)
    <*> optional ms "contract_name" none (nullable name)
    <*> optional ms "emit_debug_info" false boolean
    <*> optional ms "emit_assembly" false boolean
    <*> optional ms "disable_optimization" false boolean
    <*> optional ms "disable_inlining" false boolean
    <*> optional ms "address_version" defaultAddressVersion byte
    <* noOthers ms ["output_directory", "contract_name", "emit_debug_info", "emit_assembly",
      "disable_optimization", "disable_inlining", "address_version"]

/-- Options read from a dictionary of their fields. -/
def check : Check Options := record "CompilerOptions" ofMembers

end Options

end ContractBuild
