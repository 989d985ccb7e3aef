import ContractBuild.Decimal.Double
import ContractBuild.Path.Basic
import ContractBuild.Text.Blank
import ContractBuild.Validation.Checked

/-!
# Checks of single values

What counts as a text, a path, a boolean, a whole number, bytes or one of a set of names. The
checks are lenient where no information is lost: `"yes"` is a boolean, `" +0_53.0 "` a whole
number.

Every check takes a document and gives a value of the type that the field has, so what follows
never asks again whether a field is well formed. A field with a bound checks it after the kind of
the value (`nonemptyText`, `byte`), and of several rules that a value breaks only the first is
told.

Texts in documents can always be encoded. Where a field may get one that cannot, its own check
says so (`Layout.checkName`).
-/

namespace ContractBuild.Validation

/-- A text; bytes are read as UTF-8. -/
def text : Check String
  | .str s => .valid s
  | .bytes b =>
    match Text.decode? b with
    | some s => .valid s
    | none => .broken .textEncoding
  | _ => .broken .text

/-- A text with at least one character. -/
def nonemptyText : Check { s : String // s ≠ "" } := fun d =>
  (text d).andThen fun s => if h : s ≠ "" then .valid ⟨s, h⟩ else .broken .textTooShort

/-- A path, given as a text. -/
def path : Check Path
  | .str s => .valid (Path.ofText s)
  | _ => .broken .path

/-- Nothing, or a value that passes `check`. -/
def nullable {α : Type} (check : Check α) : Check (Option α)
  | .null => .valid none
  | d => (check d).map some

/-- The words for true, in lower case. -/
def trueWords : List String := ["1", "true", "t", "yes", "y", "on"]

/-- The words for false, in lower case. -/
def falseWords : List String := ["0", "false", "f", "no", "n", "off"]

/-- A whole number as a boolean. -/
def booleanOfInt (i : Int) : Checked Bool :=
  if i = 0 then .valid false
  else if i = 1 then .valid true
  else .broken .booleanText

/-- A boolean, 0 or 1, or one of the words in any ASCII letter case. -/
def boolean : Check Bool
  | .bool b => .valid b
  | .int i => if fits64 i then booleanOfInt i else .broken .boolean
  | .float x =>
    match x.toInt? with
    | some i => if fits64 i ∧ fits64 (-i) then booleanOfInt i else .broken .boolean
    | none => .broken .boolean
  | .str s =>
    let word := String.ofList (s.toList.map Char.toLower)
    if trueWords.contains word then .valid true
    else if falseWords.contains word then .valid false
    else .broken .booleanText
  | _ => .broken .boolean

/-! ## Whole numbers -/

/-- The number that ASCII digits write. -/
def ofDigits (cs : List Char) : Nat := cs.foldl (fun n c => n * 10 + (c.toNat - '0'.toNat)) 0

/-- How many digits a number may have. -/
def maxDigits : Nat := 4300

/-- What a text is, read as a number in its shortest form. -/
inductive Numeral where
  | number (i : Int)
  /-- It starts with more digits than a number may have. -/
  | tooLong
  | malformed
  deriving DecidableEq, Repr

namespace Numeral

/-- Reads digits, the first of which is no superfluous zero. -/
def ofNatural (cs : List Char) : Numeral :=
  let digits := cs.takeWhile Char.isDigit
  if digits.head? = some '0' then if cs = ['0'] then number 0 else malformed
  else if maxDigits < digits.length then tooLong
  else if cs.isEmpty || digits.length < cs.length then malformed
  else number (ofDigits cs)

/-- The opposite number. -/
def negated : Numeral → Numeral
  | number i => number (-i)
  | tooLong => tooLong
  | malformed => malformed

/-- Reads digits, possibly behind a minus sign. -/
def ofText : List Char → Numeral
  | '-' :: cs => (ofNatural cs).negated
  | cs => ofNatural cs

end Numeral

/-- Drops the zeros and underscores behind a first zero, which is `last` if nothing was dropped yet.
A zero before a point or before the end stays. -/
def dropZeros (last : Char) : List Char → Option (List Char)
  | [] => some [last]
  | c :: cs =>
    if c = '0' || c = '_' then dropZeros c cs
    else if c = '.' then some (last :: c :: cs)
    else if c = '-' || c.isDigit then some (c :: cs)
    else none

/-- Drops superfluous zeros at the beginning. -/
def dropLeadingZeros : List Char → Option (List Char)
  | [] => none
  | c :: cs =>
    if c = '0' then dropZeros c cs else if c = '-' || c.isDigit then some (c :: cs) else none

/-- Drops a point followed by zeros only. -/
def dropZeroFraction (cs : List Char) : List Char :=
  let whole := cs.takeWhile (· ≠ '.')
  let rest := cs.dropWhile (· ≠ '.')
  match rest with
  | '.' :: zeros => if !zeros.isEmpty && zeros.all (· = '0') then whole else cs
  | _ => cs

/-- Whether two underscores stand side by side. -/
def hasDoubleUnderscore : List Char → Bool
  | [] => false
  | c :: cs => (c = '_' && cs.head? = some '_') || hasDoubleUnderscore cs

/-- Drops underscores if all of them are single and inside the text. -/
def dropUnderscores (cs : List Char) : List Char :=
  if cs.head? = some '_' || cs.getLast? = some '_' || hasDoubleUnderscore cs then cs
  else cs.filter (· ≠ '_')

/-- What is left of a number without zeros at the beginning, a fraction of zeros and underscores. -/
def shortened (cs : List Char) : Option (List Char) :=
  (dropLeadingZeros cs).map fun cs => dropUnderscores (dropZeroFraction cs)

/-- The shortest form of a number with blanks and a sign around it. -/
def shortestForm (cs : List Char) : Option (List Char) :=
  match Text.trim Text.isSpace cs with
  | '+' :: '-' :: _ => none
  | '+' :: cs => shortened cs
  | '-' :: cs => (shortened cs).map ('-' :: ·)
  | cs => shortened cs

/-- The whole number that a text writes. Only a text that starts with too many digits is too long;
one whose shortest form has too many is no number. -/
def integerOfText (cs : List Char) : Checked Int :=
  match Numeral.ofText cs with
  | .number i => .valid i
  | .tooLong => .broken .integerSize
  | .malformed =>
    match (shortestForm cs).map Numeral.ofText with
    | some (.number i) => .valid i
    | _ => .broken .integerText

/-- A whole number. -/
def integer : Check Int
  | .bool b => .valid (if b then 1 else 0)
  | .int i => .valid i
  | .float x =>
    if !x.isFinite then .broken .finiteNumber
    else
      match x.toInt? with
      | none => .broken .wholeNumber
      | some i => if fits64 i ∧ fits64 (-i) then .valid i else .broken .integerSize
  | .str s => integerOfText s.toList
  | _ => .broken .integer

/-- A whole number from 0 to 255. -/
def byte : Check UInt8 := fun d =>
  (integer d).andThen fun i =>
    if i < 0 then .broken (.atLeast 0)
    else if 255 < i then .broken (.atMost 255)
    else .valid i.toNat.toUInt8

/-- Bytes; a text stands for its UTF-8 bytes. -/
def bytes : Check Bytes
  | .bytes b => .valid b
  | .str s => .valid (Text.encode s)
  | _ => .broken .bytes

/-- One of a set of named values. -/
def oneOf {α : Type} (names : List (String × α)) : Check α := fun d =>
  let found := match d with
    | .str s => names.lookup s
    | _ => none
  match found with
  | some a => .valid a
  | none => .broken (.oneOf (names.map (·.1)))

/-- Checks the items of a list from index `i` on. -/
def items {α : Type} (check : Check α) : (i : Nat) → List Document → Checked (List α)
  | _, [] => .valid []
  | i, x :: xs => (· :: ·) <$> (check x).under (.index i) <*> items check (i + 1) xs

/-- A sequence of values that pass `check`. -/
def sequence {α : Type} (check : Check α) : Check (List α)
  | .list xs => items check 0 xs
  | .tuple xs => items check 0 xs
  | _ => .broken .sequence

/-- A sequence with at least one item. -/
def nonemptySequence {α : Type} (check : Check α) : Check { xs : List α // xs ≠ [] } := fun d =>
  (sequence check d).andThen fun xs =>
    if h : xs ≠ [] then .valid ⟨xs, h⟩ else .broken .tooFewItems

end ContractBuild.Validation
