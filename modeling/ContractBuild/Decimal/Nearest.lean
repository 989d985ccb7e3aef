import ContractBuild.Decimal.Double

/-!
# Reading decimals

The binary64 number nearest to a decimal, a tie going to the even neighbour. The quotient is
computed exactly in the integers before it is rounded once.
-/

namespace ContractBuild.Decimal

/-- `num / den` rounded to the nearest integer, ties to the even one. -/
def roundQuotient (num den : Nat) : Nat :=
  let q := num / den
  let r := num % den
  if 2 * r < den || (2 * r = den && q % 2 = 0) then q else q + 1

/-- The bits of positive infinity, which follows the greatest finite number. -/
def infinityBits : Nat := 2047 <<< 52

/-- The bits of the positive number nearest to `num / den`. Consecutive numbers have consecutive
bits, so rounding up past a power of two needs no case of its own. -/
def nearestBits (num den : Nat) : Nat :=
  if num = 0 then 0
  else
    let estimate : Int := (Nat.log2 num : Int) - Nat.log2 den
    let fits : Bool := den <<< estimate.toNat ≤ num <<< (-estimate).toNat
    let lead : Int := if fits then estimate else estimate - 1
    let q : Int := max (lead - 52) (-1074)
    let m := roundQuotient (num <<< (-q).toNat) (den <<< q.toNat)
    let bits := (q + 1074).toNat <<< 52 + m
    min bits infinityBits

/-- The number nearest to `digits · 10 ^ exponent`, negated if `negative`. Exponents beyond the
range of the format are decided without computing the power. -/
def nearest (negative : Bool) (digits : Nat) (exponent : Int) : Double :=
  let size : Int := Nat.log2 digits / 3 + exponent
  let magnitude : Nat :=
    if digits = 0 then 0
    else if exponent > 400 then infinityBits
    else if size < -400 then 0
    else nearestBits (digits * Nat.pow 10 exponent.toNat) (Nat.pow 10 (-exponent).toNat)
  ⟨(magnitude + if negative then 1 <<< 63 else 0).toUInt64⟩

end ContractBuild.Decimal
