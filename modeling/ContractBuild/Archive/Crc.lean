import ContractBuild.Text.Utf8

/-!
# Check sums

The cyclic redundancy check of archives: the remainder of the bits, least significant first,
modulo the polynomial 0xEDB88320 in reflected form.
-/

namespace ContractBuild.Archive

/-- Shifts one bit into the remainder. -/
def crcBit (r : UInt32) : UInt32 :=
  if r &&& 1 = 1 then (r >>> 1) ^^^ 0xEDB88320 else r >>> 1

/-- Shifts one byte into the remainder. -/
def crcByte (r : UInt32) (b : UInt8) : UInt32 :=
  (List.range 8).foldl (fun r _ => crcBit r) (r ^^^ b.toUInt32)

/-- The check sum of bytes. -/
def crc (bs : Bytes) : UInt32 := bs.foldl crcByte 0xFFFFFFFF ^^^ 0xFFFFFFFF

end ContractBuild.Archive
