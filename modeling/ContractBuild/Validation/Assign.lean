import ContractBuild.Failure.Basic

/-!
# Assigning

A record whose fields were checked once cannot be changed afterwards. A name that starts with an
underscore is no field: it can be assigned, unless the record uses it itself, and no field changes.
-/

namespace ContractBuild.Validation

/-- Whether a name can be the name of a field. -/
def isFieldName (name : String) : Bool := name.toList.head? ≠ some '_'

/-- The names that a record computes from its fields. -/
def computedNames : List String := ["__fields__", "__fields_set__"]

/-- What assigning an attribute of a record of some type ends in. -/
def assign (typeName : String) (name value : Document) : Except Failure Unit :=
  match name with
  | .str name =>
    if isFieldName name then .error (.invalid [⟨[.field name], .frozen⟩])
    else if computedNames.contains name then .error (.misuse (.noSetter name typeName))
    else
      match name, value with
      | "__weakref__", _ => .error (.misuse (.notWritable name typeName))
      | "__class__", v => .error (.misuse (.notClass v.kindName))
      | "__dict__", .dict _ => .ok ()
      | "__dict__", v => .error (.misuse (.notAttributes v.kindName))
      | _, _ => .ok ()
  | d => .error (.misuse (.notAttributeName d.kindName))

end ContractBuild.Validation
