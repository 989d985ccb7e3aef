import ContractBuild.Text.Quoted

/-!
# Texts that cannot be encoded

The text type of the program modelled here is a row of code points, and among these may be halves of
surrogate pairs that stand alone (U+D800 to U+DFFF). Such a text comes from bytes of the operating
system that are no UTF-8, or from an engine; it can be compared, tested for emptiness and handed on
like any other, and fails only where its UTF-8 bytes are asked for. `String` has no room for it, so
it is a type of its own:

* `Loose` is a text with at least one lone half. The characters before the first half, that half, and
  the rest are its fields, so a value without a half cannot be built and each text has one form.
* `Raw` is any text at all, a `String` or a loose one.

Every other text of this library (paths, lines, diagnostics, texts inside documents) is a `String`.
Loose texts are followed only to the places where they change what a build does: the name of the
contract and the texts that an engine hands over for an artifact.
-/

namespace ContractBuild.Text

/-- Half of a surrogate pair, counted from the first one. -/
abbrev Surrogate := Fin 0x800

/-- The code point of a half. -/
def Surrogate.code (h : Surrogate) : Nat := 0xd800 + h.val

/-- A text with a lone half of a surrogate pair. -/
structure Loose where
  /-- What stands before the first half. -/
  before : String
  half : Surrogate
  rest : List (Char ⊕ Surrogate)
  deriving DecidableEq, Repr

namespace Loose

/-- A half as messages show it. -/
def shownHalf (h : Surrogate) : List Char := '\\' :: 'u' :: hexDigits 4 h.code

/-- A loose text with its halves written out, as a log that can hold only sound text shows it. -/
def shown (t : Loose) : String :=
  String.ofList (t.before.toList ++ shownHalf t.half
    ++ t.rest.flatMap fun u =>
      match u with
      | .inl c => [c]
      | .inr h => shownHalf h)

/-- How many halves stand side by side at the first one. -/
def run (t : Loose) : Nat := 1 + (t.rest.takeWhile Sum.isRight).length

/-- Why a text cannot be encoded whose first half stands at `start`: the halves and their places are
told. -/
def message (start : Nat) (t : Loose) : String :=
  let place := if t.run = 1 then
      " '" ++ String.ofList (shownHalf t.half) ++ "' in position " ++ toString start
    else "s in position " ++ toString start ++ "-" ++ toString (start + t.run - 1)
  "'utf-8' codec can't encode character" ++ place ++ ": surrogates not allowed"

end Loose

/-- Any text: one that can be encoded, or a loose one. -/
inductive Raw where
  | sound (s : String)
  | loose (t : Loose)
  deriving DecidableEq, Repr

namespace Raw

instance : Coe String Raw := ⟨sound⟩

/-- The text of some characters and halves in a row. -/
def ofUnits (units : List (Char ⊕ Surrogate)) : Raw :=
  let before := String.ofList (units.takeWhile Sum.isLeft |>.filterMap Sum.getLeft?)
  match units.dropWhile Sum.isLeft with
  | .inr half :: rest => loose { before, half, rest }
  | _ => sound before

/-- A text as a log shows it. -/
def shown : Raw → String
  | sound s => s
  | loose t => t.shown

/-- A text that is given and not empty. No loose text is empty. -/
def given (s : Option Raw) : Option Raw := s.filter (· ≠ sound "")

end Raw

example : Loose.message 0 ⟨"", 0, []⟩
    = "'utf-8' codec can't encode character '\\ud800' in position 0: surrogates not allowed" := by
  decide +kernel

end ContractBuild.Text
