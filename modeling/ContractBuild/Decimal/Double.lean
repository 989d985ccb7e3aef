/-!
# Double precision numbers

A number of the IEEE 754 binary64 format, held by its 64 bits and read as an exact value
`mantissa · 2 ^ scale`. No floating point operation is used anywhere: the value is a pair of
integers, so statements about it are statements about integers.
-/

namespace ContractBuild

/-- A binary64 number, held by its bits. -/
structure Double where
  bits : UInt64
  deriving DecidableEq, Repr, Inhabited

namespace Double

/-- Whether the sign bit is set. -/
def isNegative (x : Double) : Bool := x.bits.toNat >>> 63 = 1

/-- The eleven bits of the biased exponent. -/
def exponentField (x : Double) : Nat := x.bits.toNat >>> 52 % 2048

/-- The bit in front of the fraction, which the format leaves out; fractions are below it. -/
def leadingBit : Nat := 0x10000000000000

/-- The fifty-two bits of the fraction. -/
def fractionField (x : Double) : Nat := x.bits.toNat % leadingBit

def isNaN (x : Double) : Bool := x.exponentField = 2047 && x.fractionField ≠ 0

def isInfinite (x : Double) : Bool := x.exponentField = 2047 && x.fractionField = 0

def isFinite (x : Double) : Bool := x.exponentField ≠ 2047

/-- The integer `m` of a finite magnitude `m · 2 ^ scale`. -/
def mantissa (x : Double) : Nat :=
  if x.exponentField = 0 then x.fractionField else x.fractionField + leadingBit

/-- The exponent of a finite magnitude `mantissa · 2 ^ scale`. -/
def scale (x : Double) : Int :=
  if x.exponentField = 0 then -1074 else (x.exponentField : Int) - 1075

/-- The integer that a finite number stands for, if it is one. -/
def toInt? (x : Double) : Option Int :=
  if !x.isFinite then none
  else
    let m : Option Nat :=
      if 0 ≤ x.scale then some (x.mantissa <<< x.scale.toNat)
      else
        let whole := x.mantissa >>> (-x.scale).toNat
        if whole <<< (-x.scale).toNat = x.mantissa then some whole else none
    m.map fun n => if x.isNegative then -(n : Int) else n

end Double

end ContractBuild
