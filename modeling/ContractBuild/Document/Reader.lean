import ContractBuild.Decimal.Nearest
import ContractBuild.Document.Basic

/-!
# Reading JSON

A reader for JSON texts that keeps the order of members and tells whole numbers from decimals: a
number with a fraction or an exponent becomes the nearest binary64 number, any other number an
integer. `read?` accepts a value with white space around it and nothing else.

The program has no such reader. It is here as the other side of `Json.write`: what is read back
from a written document is the measure of whether writing loses anything
(`Proofs.Document.ReadBack`). The words that the writer has for infinite numbers are no JSON, and
the reader does not take them.

The reader works on the remaining characters. Its recursion is bounded by a depth that the length
of the text always covers, so the bound never shows.
-/

namespace ContractBuild.Document.Reader

/-- Drops the white space between tokens. -/
def skip (cs : List Char) : List Char :=
  cs.dropWhile fun c => c = ' ' || c = '\t' || c = '\n' || c = '\r'

/-- The value of a hexadecimal digit of either case. -/
def hexValue? (c : Char) : Option Nat :=
  if '0' ≤ c ∧ c ≤ '9' then some (c.toNat - '0'.toNat)
  else if 'a' ≤ c ∧ c ≤ 'f' then some (c.toNat - 'a'.toNat + 10)
  else if 'A' ≤ c ∧ c ≤ 'F' then some (c.toNat - 'A'.toNat + 10)
  else none

/-- The value of four hexadecimal digits. -/
def hex4? (a b c d : Char) : Option Nat := do
  let a ← hexValue? a
  let b ← hexValue? b
  let c ← hexValue? c
  let d ← hexValue? d
  return ((a * 16 + b) * 16 + c) * 16 + d

/-- The character of a one-letter escape. -/
def shortEscape? : Char → Option Char
  | '"' => some '"'
  | '\\' => some '\\'
  | '/' => some '/'
  | 'b' => some '\x08'
  | 'f' => some '\x0c'
  | 'n' => some '\n'
  | 'r' => some '\r'
  | 't' => some '\t'
  | _ => none

/-- The rest of a string after its opening quote, and what follows the closing one. Two escaped
surrogates name one character; a surrogate on its own is refused. -/
def string? : List Char → Option (List Char × List Char)
  | [] => none
  | '"' :: rest => some ([], rest)
  | '\\' :: 'u' :: a :: b :: c :: d :: '\\' :: 'u' :: e :: f :: g :: h :: rest => do
    let high ← hex4? a b c d
    if 0xd800 ≤ high ∧ high < 0xdc00 then
      let low ← hex4? e f g h
      if 0xdc00 ≤ low ∧ low < 0xe000 then
        let (cs, after) ← string? rest
        return (Char.ofNat (0x10000 + (high - 0xd800) * 0x400 + (low - 0xdc00)) :: cs, after)
      else none
    else if 0xdc00 ≤ high ∧ high < 0xe000 then none
    else
      let (cs, after) ← string? ('\\' :: 'u' :: e :: f :: g :: h :: rest)
      return (Char.ofNat high :: cs, after)
  | '\\' :: 'u' :: a :: b :: c :: d :: rest => do
    let n ← hex4? a b c d
    if 0xd800 ≤ n ∧ n < 0xe000 then none
    else
      let (cs, after) ← string? rest
      return (Char.ofNat n :: cs, after)
  | '\\' :: c :: rest => do
    let c ← shortEscape? c
    let (cs, after) ← string? rest
    return (c :: cs, after)
  | c :: rest =>
    if c = '\\' || c.toNat < 0x20 then none
    else do
      let (cs, after) ← string? rest
      return (c :: cs, after)

/-- The number that a list of ASCII digits writes. -/
def ofDigits (ds : List Char) : Nat :=
  ds.foldl (fun n c => n * 10 + (c.toNat - '0'.toNat)) 0

/-- Splits off the leading digits; there must be one. -/
def digits? (cs : List Char) : Option (List Char × List Char) :=
  match cs.takeWhile Char.isDigit with
  | [] => none
  | ds => some (ds, cs.dropWhile Char.isDigit)

/-- The digits after a point, if there is one. -/
def fraction? : List Char → Option (Option (List Char) × List Char)
  | '.' :: rest => (digits? rest).map fun (ds, after) => (some ds, after)
  | cs => some (none, cs)

/-- The exponent after `e` or `E`, if there is one. -/
def exponent? : List Char → Option (Option Int × List Char)
  | c :: rest =>
    if c = 'e' || c = 'E' then
      match rest with
      | '-' :: rest => (digits? rest).map fun (ds, after) => (some (-(ofDigits ds : Int)), after)
      | '+' :: rest => (digits? rest).map fun (ds, after) => (some (ofDigits ds : Int), after)
      | rest => (digits? rest).map fun (ds, after) => (some (ofDigits ds : Int), after)
    else some (none, c :: rest)
  | [] => some (none, [])

/-- A number without its sign. A leading zero stands alone in front of the point. -/
def magnitude? (negative : Bool) (cs : List Char) : Option (Document × List Char) := do
  let (whole, rest) ← digits? cs
  if whole.length > 1 ∧ whole.head? = some '0' then none
  else
    let (fraction, rest) ← fraction? rest
    let (exponent, rest) ← exponent? rest
    if fraction.isNone && exponent.isNone then
      let n : Int := ofDigits whole
      return (.int (if negative then -n else n), rest)
    else
      let ds := fraction.getD []
      return (.float (Decimal.nearest negative (ofDigits (whole ++ ds))
        (exponent.getD 0 - ds.length)), rest)

/-- A number. -/
def number? : List Char → Option (Document × List Char)
  | '-' :: rest => magnitude? true rest
  | cs => magnitude? false cs

mutual

/-- A value, nested at most `depth` deep. -/
def value? : (depth : Nat) → List Char → Option (Document × List Char)
  | 0, _ => none
  | depth + 1, cs =>
    match skip cs with
    | '"' :: rest => (string? rest).map fun (cs, after) => (.str (String.ofList cs), after)
    | '[' :: rest =>
      match skip rest with
      | ']' :: after => some (.list [], after)
      | rest => (items? depth rest).map fun (xs, after) => (.list xs, after)
    | '{' :: rest =>
      match skip rest with
      | '}' :: after => some (.dict [], after)
      | rest => (members? depth rest).map fun (ms, after) => (.dict ms, after)
    | 'n' :: 'u' :: 'l' :: 'l' :: after => some (.null, after)
    | 't' :: 'r' :: 'u' :: 'e' :: after => some (.bool true, after)
    | 'f' :: 'a' :: 'l' :: 's' :: 'e' :: after => some (.bool false, after)
    | rest => number? rest

/-- The items of a list up to and including its closing bracket. -/
def items? : (depth : Nat) → List Char → Option (List Document × List Char)
  | 0, _ => none
  | depth + 1, cs => do
    let (x, rest) ← value? depth cs
    match skip rest with
    | ']' :: after => some ([x], after)
    | ',' :: rest =>
      let (xs, after) ← items? depth rest
      some (x :: xs, after)
    | _ => none

/-- The members of an object up to and including its closing brace. -/
def members? : (depth : Nat) → List Char → Option (List (Document × Document) × List Char)
  | 0, _ => none
  | depth + 1, cs =>
    match skip cs with
    | '"' :: rest => do
      let (name, rest) ← string? rest
      match skip rest with
      | ':' :: rest =>
        let (v, rest) ← value? depth rest
        let m := (Document.str (String.ofList name), v)
        match skip rest with
        | '}' :: after => some ([m], after)
        | ',' :: rest =>
          let (ms, after) ← members? depth rest
          some (m :: ms, after)
        | _ => none
      | _ => none
    | _ => none

end

end ContractBuild.Document.Reader

namespace ContractBuild.Document

/-- The document that a JSON text stands for. -/
def read? (text : List Char) : Option Document :=
  match Reader.value? (text.length + 1) text with
  | some (d, rest) => if Reader.skip rest = [] then some d else none
  | none => none

end ContractBuild.Document
