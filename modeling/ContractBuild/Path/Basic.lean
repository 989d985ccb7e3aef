import ContractBuild.Text.LowerCase

/-!
# Paths

A path is an anchor and a list of parts. Reading a text drops empty and `.` components, so the
parts of a path are never empty, never `.` and hold no slash (`isPart`, which every path carries
with it); `..` is kept until a path is normalised. Exactly two leading slashes are an anchor of
their own.

Paths are pure data: nothing here asks a disk. Besides reading and writing texts there are the
operations that the program uses to name things:

* `join`, `parent`, `name`, and `stem` and `suffix`, which split a name at its last point. A point
  with nothing on one side of it splits nothing, so `.cs` is a name without a suffix;
* `hasSuffix`, the test of `_has_suffix`, in which the case of letters does not count. The lower
  case is that of the whole text, as Unicode defines it, and not that of ASCII;
* `le`, the order in which a scan gives its files. It compares components, not texts, so `a/b.cs`
  stands before `a-b.cs`.

A path given in a loose text, one that cannot be encoded, is not modelled (see `Text.Loose`).
-/

namespace ContractBuild

/-- Where a path starts. -/
inductive Path.Anchor where
  | relative
  | root
  | doubleRoot
  deriving DecidableEq, Repr, Inhabited

/-- A component that a path keeps. -/
def Path.IsPart (s : String) : Prop := s ≠ "" ∧ s ≠ "." ∧ '/' ∉ s.toList

instance (s : String) : Decidable (Path.IsPart s) := by
  unfold Path.IsPart; infer_instance

/-- A path, absolute or relative. -/
structure Path where
  anchor : Path.Anchor
  parts : List String
  isPart : ∀ s ∈ parts, Path.IsPart s
  deriving DecidableEq

namespace Path

@[ext] theorem ext {p q : Path} (ha : p.anchor = q.anchor) (hp : p.parts = q.parts) : p = q := by
  cases p; cases q; simp_all

/-- The components of a text between its slashes. -/
def components (s : String) : List String :=
  (s.toList.splitOn '/').map String.ofList

/-- The anchor that the leading slashes of a text name. -/
def anchorOf (s : String) : Anchor :=
  match s.toList with
  | '/' :: '/' :: '/' :: _ => .root
  | '/' :: '/' :: _ => .doubleRoot
  | '/' :: _ => .root
  | _ => .relative

/-- The path with the given anchor and those of the components that a path keeps. -/
def ofComponents (anchor : Anchor) (cs : List String) : Path where
  anchor := anchor
  parts := cs.filter fun s => decide (IsPart s)
  isPart := by simp

/-- The path that a text names. -/
def ofText (s : String) : Path := ofComponents (anchorOf s) (components s)

/-- The text of a path; the empty relative path is `.`. -/
def toText (p : Path) : String :=
  let body := "/".intercalate p.parts
  match p.anchor with
  | .relative => if p.parts.isEmpty then "." else body
  | .root => "/" ++ body
  | .doubleRoot => "//" ++ body

instance : ToString Path := ⟨toText⟩

instance : Repr Path := ⟨fun p _ => p.toText⟩

def isAbsolute (p : Path) : Bool := p.anchor ≠ .relative

/-- Whether the null character occurs in a path. No such path can be opened. -/
def hasNul (p : Path) : Bool := p.parts.any fun s => s.toList.contains '\x00'

/-- The last part, empty if there is none. -/
def name (p : Path) : String := p.parts.getLast?.getD ""

/-- The path without its last part. A path without parts is its own parent. -/
def parent (p : Path) : Path where
  anchor := p.anchor
  parts := p.parts.dropLast
  isPart s hs := p.isPart s (List.dropLast_subset _ hs)

/-- `p` followed by `q`; an absolute `q` replaces `p`. -/
def join (p q : Path) : Path :=
  if q.isAbsolute then q
  else
    { anchor := p.anchor
      parts := p.parts ++ q.parts
      isPart := fun s hs => (List.mem_append.1 hs).elim (p.isPart s) (q.isPart s) }

/-- `p` followed by the path that a text names. -/
def joinText (p : Path) (s : String) : Path := p.join (ofText s)

/-! ## Names -/

/-- Splits a file name into stem and suffix. The suffix starts at the last point, provided that
something stands on either side of it; otherwise it is empty. -/
def splitName (name : List Char) : List Char × List Char :=
  let after := (name.reverse.takeWhile (· != '.')).reverse
  let before := name.take (name.length - after.length - 1)
  if after.length < name.length ∧ after ≠ [] ∧ before ≠ [] then (before, '.' :: after)
  else (name, [])

/-- The suffix of a path's name, with its point. -/
def suffix (p : Path) : String := String.ofList (splitName p.name.toList).2

/-- The name of a path without its suffix. -/
def stem (p : Path) : String := String.ofList (splitName p.name.toList).1

/-- Whether a path has the given suffix in any letter case. The suffix is given in lower case. -/
def hasSuffix (p : Path) (suffix : String) : Bool :=
  Text.lowerCase (splitName p.name.toList).2 = suffix.toList

/-! ## Order -/

/-- The components by which paths are ordered: one empty component for each leading slash, and
the parts. -/
def orderKey (p : Path) : List String :=
  match p.anchor with
  | .relative => if p.parts.isEmpty then ["."] else p.parts
  | .root => "" :: if p.parts.isEmpty then [""] else p.parts
  | .doubleRoot => "" :: "" :: if p.parts.isEmpty then [""] else p.parts

/-- Whether one list of components is at most another; the first components that differ decide. -/
def componentsLe : List String → List String → Bool
  | [], _ => true
  | _ :: _, [] => false
  | a :: as, b :: bs => if a = b then componentsLe as bs else decide (a ≤ b)

/-- Paths are compared component by component, by code points. -/
def le (p q : Path) : Bool := componentsLe p.orderKey q.orderKey

end Path

end ContractBuild
