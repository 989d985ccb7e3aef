import ContractBuild.Text.Printable

/-!
# Quoted texts in messages

A name is shown in a message between single quotes, or between double quotes when it holds a
single quote and no double quote. The quote and the backslash are escaped by a backslash, and
characters that cannot be printed by their code point.
-/

namespace ContractBuild.Text

/-- The last `width` hexadecimal digits of `n`, in lower case. -/
def hexDigits (width : Nat) (n : Nat) : List Char :=
  match width with
  | 0 => []
  | w + 1 => hexDigits w (n / 16) ++ [Nat.digitChar (n % 16)]

theorem length_hexDigits (w n : Nat) : (hexDigits w n).length = w := by
  induction w generalizing n with
  | zero => rfl
  | succ w ih => simp [hexDigits, ih]

namespace Quoted

/-- The quote around `s`: single, unless `s` holds a single quote and no double quote. -/
def quoteFor (s : String) : Char :=
  if s.toList.contains '\'' && !s.toList.contains '"' then '"' else '\''

/-- One character between quotes `q`. -/
def encodeChar (q c : Char) : List Char :=
  if c = q || c = '\\' then ['\\', c]
  else if c = '\n' then ['\\', 'n']
  else if c = '\r' then ['\\', 'r']
  else if c = '\t' then ['\\', 't']
  else if isPrintable c then [c]
  else if c.toNat < 0x100 then '\\' :: 'x' :: hexDigits 2 c.toNat
  else if c.toNat < 0x10000 then '\\' :: 'u' :: hexDigits 4 c.toNat
  else '\\' :: 'U' :: hexDigits 8 c.toNat

end Quoted

/-- A text between quotes, as messages show names. -/
def quoted (s : String) : String :=
  let q := Quoted.quoteFor s
  String.ofList (q :: s.toList.flatMap (Quoted.encodeChar q) ++ [q])

end ContractBuild.Text
