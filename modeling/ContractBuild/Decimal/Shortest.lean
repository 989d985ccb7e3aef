import ContractBuild.Decimal.Double

/-!
# Shortest decimals

The decimal with the fewest digits among those that lie nearer to a binary64 number than to any
other, and of those the nearest one. All comparisons are between integers: the number is
`mantissa · 2 ^ scale`, the reals that round to it form an interval whose ends are the midpoints
to its two neighbours, and for one, two, … digits the two grid points around the number are tried.
-/

namespace ContractBuild.Decimal

/-- A decimal `digits · 10 ^ exponent`. -/
structure Scientific where
  digits : Nat
  exponent : Int
  deriving DecidableEq, Repr

/-- How many decimal digits `n` has; zero has none. -/
def digitCount (n : Nat) : Nat :=
  if n = 0 then 0 else digitCount (n / 10) + 1

/-- The exponent `e` with `10 ^ e ≤ num / den < 10 ^ (e + 1)`. -/
def leadingExponent (num den : Nat) : Int :=
  if den ≤ num then (digitCount (num / den) : Int) - 1 else -(digitCount ((den - 1) / num) : Int)

/-- The reals that round to a number, in units of a quarter of its last binary place. -/
structure Interval where
  low : Nat
  value : Nat
  high : Nat
  /-- The binary exponent of the unit. -/
  unit : Int
  /-- Whether the ends belong to the interval. -/
  closed : Bool

/-- The interval of a finite number. Below a power of two the neighbour is half as far away. The
ends round to the number itself exactly when its last binary digit is even. -/
def Interval.of (x : Double) : Interval where
  low := if x.fractionField = 0 && 1 < x.exponentField then 4 * x.mantissa - 1
    else 4 * x.mantissa - 2
  value := 4 * x.mantissa
  high := 4 * x.mantissa + 2
  unit := x.scale - 2
  closed := x.mantissa % 2 = 0

/-- The two sides of a comparison between `d · 10 ^ k` and `n · 2 ^ u`, cleared of fractions. -/
def sides (d : Nat) (k : Int) (n : Nat) (u : Int) : Nat × Nat :=
  ((d * Nat.pow 10 k.toNat) <<< (-u).toNat, n <<< u.toNat * Nat.pow 10 (-k).toNat)

/-- Whether the decimal `d · 10 ^ k` rounds to the number. -/
def Interval.contains (i : Interval) (d : Nat) (k : Int) : Bool :=
  let below := sides d k i.low i.unit
  let above := sides d k i.high i.unit
  if i.closed then below.2 ≤ below.1 && above.1 ≤ above.2
  else below.2 < below.1 && above.1 < above.2

/-- Removes trailing zeros from the digits. -/
def Scientific.reduce (s : Scientific) : Scientific :=
  if 0 < s.digits ∧ s.digits % 10 = 0 then
    Scientific.reduce ⟨s.digits / 10, s.exponent + 1⟩
  else s
  termination_by s.digits

/-- The better of the two points of the grid of `n` digits around the number, if one of them
rounds to it. -/
def Interval.onGrid? (i : Interval) (lead : Int) (n : Nat) : Option Scientific :=
  let k : Int := lead - n + 1
  let s := sides 1 k i.value i.unit
  let d := s.2 / s.1
  let rest := s.2 % s.1
  let lower := i.contains d k
  let upper := i.contains (d + 1) k
  if lower && upper then
    if 2 * rest < s.1 || (2 * rest = s.1 && d % 2 = 0) then some ⟨d, k⟩ else some ⟨d + 1, k⟩
  else if lower then some ⟨d, k⟩
  else if upper then some ⟨d + 1, k⟩
  else none

/-- The shortest decimal that reads back as the magnitude of a finite number. Seventeen digits
always suffice. -/
def shortest (x : Double) : Scientific :=
  if x.mantissa = 0 then ⟨0, 0⟩
  else
    let i := Interval.of x
    let lead := leadingExponent (x.mantissa <<< x.scale.toNat) (1 <<< (-x.scale).toNat)
    match (List.range' 1 17).findSome? (i.onGrid? lead) with
    | some s => s.reduce
    | none => ⟨x.mantissa, 0⟩

/-- How a decimal is written. -/
structure Style where
  /-- The least and the greatest position of the point that are written without an exponent. -/
  leastPoint : Int
  greatestPoint : Int
  /-- The least number of digits of an exponent. -/
  exponentDigits : Nat

/-- The digits of `n`, most significant first. -/
def digitsOf (n : Nat) : List Char := Nat.toDigits 10 n

/-- `ds` with zeros in front up to `n` characters. -/
def padLeft (n : Nat) (ds : List Char) : List Char :=
  List.replicate (n - ds.length) '0' ++ ds

/-- Writes a decimal. The point is followed by at least one digit in positional form and by none
in exponent form with one digit. -/
def Scientific.write (style : Style) (s : Scientific) : List Char :=
  let ds := digitsOf s.digits
  let point : Int := if s.digits = 0 then 1 else ds.length + s.exponent
  if style.leastPoint ≤ point ∧ point ≤ style.greatestPoint then
    if point ≤ 0 then '0' :: '.' :: (List.replicate (-point).toNat '0' ++ ds)
    else if (ds.length : Int) ≤ point then
      ds ++ List.replicate (point.toNat - ds.length) '0' ++ ['.', '0']
    else ds.take point.toNat ++ '.' :: ds.drop point.toNat
  else
    let fraction := if ds.length ≤ 1 then [] else '.' :: ds.drop 1
    let e := point - 1
    ds.take 1 ++ fraction ++ ['e', if e < 0 then '-' else '+']
      ++ padLeft style.exponentDigits (digitsOf e.natAbs)

end ContractBuild.Decimal
