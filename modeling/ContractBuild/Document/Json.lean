import ContractBuild.Decimal.Shortest
import ContractBuild.Document.Basic
import ContractBuild.Text.Quoted

/-!
# Compact JSON

The text that `serialize_document` of the program makes. Documents are written as JSON on a single
line, without blanks, members in the order of the dictionary. Tuples are written as lists, and
keys that are numbers, booleans or nothing as the text of their JSON form, so that two keys of a
dictionary may become the same text.

Two things have no JSON form: bytes, and keys that are bytes, lists, tuples or dictionaries.
`write` reports the first of them in the order of the text, a key before its value (`Unwritable`).

Three binary64 values have no JSON form either, and are written all the same, as words that no
grammar of JSON knows (`float`). So the writer accepts more documents than have a text in that
grammar; where it stays inside is the subject of `Proofs.Document.Conformity`.

The recursion follows the document and has no limit on its depth.
-/

namespace ContractBuild

/-- Why a document has no JSON form. -/
inductive Unwritable where
  /-- Bytes stand where a value belongs. -/
  | value
  /-- A key is neither a text nor a number, a boolean or nothing. -/
  | key (kind : String)
  deriving DecidableEq, Repr

namespace Unwritable

def message : Unwritable → String
  | value => "Object of type bytes is not JSON serializable"
  | key kind => "keys must be str, int, float, bool or None, not " ++ kind

end Unwritable

namespace Document

/-- The name of a document's kind in messages. -/
def kindName : Document → String
  | null => "NoneType"
  | bool _ => "bool"
  | int _ => "int"
  | float _ => "float"
  | str _ => "str"
  | bytes _ => "bytes"
  | list _ => "list"
  | tuple _ => "tuple"
  | dict _ => "dict"

namespace Json

/-- Numbers are written out while the point stands at most three zeros in front of the first digit
and at most sixteen digits behind it; an exponent has at least two digits. -/
def numberStyle : Decimal.Style where
  leastPoint := -3
  greatestPoint := 16
  exponentDigits := 2

/-- A binary64 number. The three that no decimal names are written as words. -/
def float (x : Double) : List Char :=
  if x.isNaN then "NaN".toList
  else
    let magnitude :=
      if x.isInfinite then "Infinity".toList else (Decimal.shortest x).write numberStyle
    if x.isNegative then '-' :: magnitude else magnitude

/-- A whole number. -/
def int : Int → List Char
  | .ofNat n => Decimal.digitsOf n
  | .negSucc n => '-' :: Decimal.digitsOf (n + 1)

def bool (b : Bool) : List Char := if b then "true".toList else "false".toList

/-- One character between quotes. Only the quote, the backslash and the characters below U+0020
are escaped. -/
def escape (c : Char) : List Char :=
  if c = '"' then ['\\', '"']
  else if c = '\\' then ['\\', '\\']
  else if c = '\n' then ['\\', 'n']
  else if c = '\r' then ['\\', 'r']
  else if c = '\t' then ['\\', 't']
  else if c = '\x08' then ['\\', 'b']
  else if c = '\x0c' then ['\\', 'f']
  else if c.toNat < 0x20 then '\\' :: 'u' :: Text.hexDigits 4 c.toNat
  else [c]

/-- A text between quotes. -/
def string (s : String) : List Char :=
  '"' :: s.toList.flatMap escape ++ ['"']

/-- A key is a text; numbers, booleans and nothing stand as the text of their JSON form. -/
def key : Document → Except Unwritable (List Char)
  | .str s => .ok (string s)
  | .int i => .ok ('"' :: int i ++ ['"'])
  | .float x => .ok ('"' :: float x ++ ['"'])
  | .bool b => .ok ('"' :: bool b ++ ['"'])
  | .null => .ok "\"null\"".toList
  | d => .error (.key d.kindName)

mutual

/-- The compact JSON form of a document. -/
def write : Document → Except Unwritable (List Char)
  | .null => .ok "null".toList
  | .bool b => .ok (bool b)
  | .int i => .ok (int i)
  | .float x => .ok (float x)
  | .str s => .ok (string s)
  | .bytes _ => .error .value
  | .list xs => (writeItems xs).map fun cs => '[' :: cs ++ [']']
  | .tuple xs => (writeItems xs).map fun cs => '[' :: cs ++ [']']
  | .dict ms => (writeMembers ms).map fun cs => '{' :: cs ++ ['}']

/-- The items of a list, separated by commas. -/
def writeItems : List Document → Except Unwritable (List Char)
  | [] => .ok []
  | x :: xs => do
    let head ← write x
    let tail ← writeItems xs
    return match xs with
      | [] => head
      | _ => head ++ ',' :: tail

/-- The members of a dictionary, separated by commas. -/
def writeMembers : List (Document × Document) → Except Unwritable (List Char)
  | [] => .ok []
  | (k, v) :: ms => do
    let name ← key k
    let value ← write v
    let tail ← writeMembers ms
    return match ms with
      | [] => name ++ ':' :: value
      | _ => name ++ ':' :: value ++ ',' :: tail

end

end Json

/-- The compact JSON text of a document. -/
def toJson (d : Document) : Except Unwritable String :=
  (Json.write d).map String.ofList

end Document

end ContractBuild
