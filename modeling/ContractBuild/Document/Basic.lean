import ContractBuild.Decimal.Double
import ContractBuild.Text.Utf8

/-!
# Documents

The dynamic values that a compilation engine hands over as a manifest, as debug information or in
any other place: nothing, booleans, whole numbers, binary64 numbers, texts, bytes, lists, tuples
and dictionaries that keep the order in which their keys were first inserted. The fields of
records that the program validates, and the values in its log, are documents as well.

A dictionary is a row of members. Which keys address the same member is a relation of its own
(`sameKey`), since equal numbers do so whatever their kind, and the number that differs from
itself addresses nothing. `insert` keeps the key that came first and takes the value that came
last; a dictionary built by `ofMembers` has no two members under one key. Nothing forces a `dict`
to be of that form, and what is proved about writing documents does not need it.

Whole numbers have no bound. Objects of other kinds, and values that contain themselves, are left
out, as are texts that cannot be encoded inside of a document (see `Document.Value`).
-/

namespace ContractBuild

inductive Document where
  | null
  | bool (b : Bool)
  | int (i : Int)
  | float (x : Double)
  | str (s : String)
  | bytes (b : Bytes)
  | list (xs : List Document)
  | tuple (xs : List Document)
  | dict (members : List (Document × Document))
  deriving Repr, Inhabited

/-- Whether an integer fits in 64 bits, one of them the sign. -/
def fits64 (i : Int) : Bool := -0x8000000000000000 ≤ i && i < 0x8000000000000000

namespace Document

/-- Whether two documents are the same, kind and content. -/
def same : Document → Document → Bool
  | null, null => true
  | bool a, bool b => a = b
  | int a, int b => a = b
  | float a, float b => a = b
  | str a, str b => a = b
  | bytes a, bytes b => a = b
  | list xs, list ys => sameItems xs ys
  | tuple xs, tuple ys => sameItems xs ys
  | dict xs, dict ys => sameMembers xs ys
  | _, _ => false
where
  sameItems : List Document → List Document → Bool
    | [], [] => true
    | x :: xs, y :: ys => same x y && sameItems xs ys
    | _, _ => false
  sameMembers : List (Document × Document) → List (Document × Document) → Bool
    | [], [] => true
    | (k, v) :: xs, (l, w) :: ys => same k l && same v w && sameMembers xs ys
    | _, _ => false

/-- The whole number that a key stands for: booleans count as 0 and 1, and a binary64 number
without a fraction as that number. -/
def wholeKey? : Document → Option Int
  | bool b => some (if b then 1 else 0)
  | int i => some i
  | float x => x.toInt?
  | _ => none

/-- Whether a document is the binary64 value that differs from itself. -/
def isNaN : Document → Bool
  | float x => x.isNaN
  | _ => false

/-- Whether two keys address the same member: equal numbers do so whatever their kind, other keys
only when they are the same. A key that is no number differs even from itself. -/
def sameKey : Document → Document → Bool
  | tuple xs, tuple ys => sameKeys xs ys
  | a, b =>
    match a.wholeKey?, b.wholeKey? with
    | some i, some j => i = j
    | none, none => same a b && !a.isNaN
    | _, _ => false
where
  sameKeys : List Document → List Document → Bool
    | [], [] => true
    | x :: xs, y :: ys => sameKey x y && sameKeys xs ys
    | _, _ => false

/-- Sets the member of a key: in place if the key is there, at the end if not. The key itself
stays as it was first inserted. -/
def insert (members : List (Document × Document)) (k v : Document) :
    List (Document × Document) :=
  match members with
  | [] => [(k, v)]
  | (l, w) :: rest => if sameKey l k then (l, v) :: rest else (l, w) :: insert rest k v

/-- The dictionary that results from inserting members one after another. -/
def ofMembers (members : List (Document × Document)) : Document :=
  dict (members.foldl (fun d m => insert d m.1 m.2) [])

/-- The text that a document is. -/
def text? : Document → Option String
  | str s => some s
  | _ => none

/-- The kind of the first part of a document that may change, which no key of a dictionary can
hold. -/
def mutableKind? : Document → Option String
  | list _ => some "list"
  | dict _ => some "dict"
  | tuple xs => firstMutable xs
  | _ => none
where
  firstMutable : List Document → Option String
    | [] => none
    | x :: xs => mutableKind? x <|> firstMutable xs

/-- Whether a document counts as yes: nothing, zero and whatever is empty count as no. -/
def isYes : Document → Bool
  | null => false
  | bool b => b
  | int i => i ≠ 0
  | float x => x.toInt? ≠ some 0
  | str s => s ≠ ""
  | bytes b => !b.isEmpty
  | list xs | tuple xs => !xs.isEmpty
  | dict members => !members.isEmpty

/-- The member of a text key. -/
def get? : Document → String → Option Document
  | dict members, name =>
    (members.find? fun m => match m.1 with | str s => s = name | _ => false).map (·.2)
  | _, _ => none

/-- A dictionary with text keys. -/
def ofFields (fields : List (String × Document)) : Document :=
  dict (fields.map fun f => (str f.1, f.2))

/-- A document that may be missing. -/
def ofOption {α : Type} (f : α → Document) : Option α → Document
  | none => null
  | some a => f a

end Document

end ContractBuild
