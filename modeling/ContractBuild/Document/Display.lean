import ContractBuild.Document.Json

/-!
# Documents in messages

How a message shows a value: a text on its own as it is, everything inside brackets and every
value that is no text in the notation of a literal, with texts quoted.
-/

namespace ContractBuild.Document

namespace Display

/-- A binary64 number. -/
def float (x : Double) : List Char :=
  if x.isNaN then "nan".toList
  else if x.isInfinite then (if x.isNegative then "-inf" else "inf").toList
  else Json.float x

/-- One byte between quotes `q`: printable ASCII as it is, anything else by its number. -/
def byte (q : Char) (b : UInt8) : List Char :=
  if b < 0x80 then Text.Quoted.encodeChar q (Char.ofNat b.toNat)
  else '\\' :: 'x' :: Text.hexDigits 2 b.toNat

def bytes (b : Bytes) : List Char :=
  let q := Text.Quoted.quoteFor (String.ofList (b.map fun x => Char.ofNat x.toNat))
  'b' :: q :: b.flatMap (byte q) ++ [q]

mutual

/-- The literal of a document. -/
def literal : Document → List Char
  | .null => "None".toList
  | .bool b => (if b then "True" else "False").toList
  | .int i => Json.int i
  | .float x => float x
  | .str s => (Text.quoted s).toList
  | .bytes b => bytes b
  | .list xs => '[' :: items xs ++ [']']
  | .tuple xs =>
    match xs with
    | [x] => '(' :: literal x ++ [',', ')']
    | xs => '(' :: items xs ++ [')']
  | .dict ms => '{' :: members ms ++ ['}']

def items : List Document → List Char
  | [] => []
  | [x] => literal x
  | x :: xs => literal x ++ ',' :: ' ' :: items xs

def members : List (Document × Document) → List Char
  | [] => []
  | [(k, v)] => literal k ++ ':' :: ' ' :: literal v
  | (k, v) :: ms => literal k ++ ':' :: ' ' :: literal v ++ ',' :: ' ' :: members ms

end

end Display

/-- A document as a literal. -/
def literal (d : Document) : String := String.ofList (Display.literal d)

/-- A document as a message shows it: texts without quotes. -/
def display : Document → String
  | str s => s
  | d => d.literal

end ContractBuild.Document
