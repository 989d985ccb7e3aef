import ContractBuild.Failure.Basic
import ContractBuild.Validation.Checked

/-!
# Records from fields

A record is made from fields that are given by name, so only a dictionary can give them. Where a
record stands inside another one, a value that is no dictionary is an issue of the outer record
instead.
-/

namespace ContractBuild.Validation

/-- The record of a type that a value gives the fields of. -/
def fromFields {α : Type} (typeName : String) (check : Check α) : Document → Except Failure α
  | .dict ms => (check (.dict ms)).toExcept.mapError .invalid
  | d => .error (.misuse (.notFields typeName d.kindName))

end ContractBuild.Validation
