import ContractBuild.Document.Room

/-!
# Documents as bytes

The bytes that a value stands for where an executable is expected (what the writer makes of the
value of `emit_executable`): bytes themselves, a sequence of numbers below 256, or a number of
zero bytes. A dictionary counts as the sequence of its keys. A text stands for no bytes, because
nobody says in which encoding.

The first item that is no byte is the one that is told. A count is checked for room before any
byte is made (`Document.Room`).
-/

namespace ContractBuild.Document

/-- A number from 0 to 255 as a byte. -/
def octetOfInt (i : Int) : Except Misuse UInt8 :=
  if 0 ≤ i ∧ i < 256 then .ok i.toNat.toUInt8 else .error .byteRange

/-- One item of a sequence as a byte. -/
def octet : Document → Except Misuse UInt8
  | bool b => .ok (if b then 1 else 0)
  | int i => octetOfInt i
  | d => .error (.notByte d.kindName)

/-- The bytes that a document stands for. -/
def octets : Document → Except Misuse Bytes
  | bytes b => .ok b
  | list xs => xs.mapM octet
  | tuple xs => xs.mapM octet
  | dict ms => ms.mapM fun m => octet m.1
  | int n => zeros n
  | bool b => zeros (if b then 1 else 0)
  | str _ => .error .textAsBytes
  | d => .error (.notBytes d.kindName)

end ContractBuild.Document
