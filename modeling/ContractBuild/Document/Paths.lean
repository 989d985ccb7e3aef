import ContractBuild.Failure.Basic

/-!
# Paths in documents

The paths that a value of any kind gives where one path or several are asked for.
-/

namespace ContractBuild.Document

/-- The path that a value gives: only a text gives one. -/
def pathText : Document → Except Misuse String
  | str s => .ok s
  | d => .error (.notPath d.kindName)

/-- The values that a value holds, one after another: a text holds its characters, a dictionary its
keys. -/
def held : Document → Except Misuse (List Document)
  | str s => .ok (s.toList.map fun c => str (String.ofList [c]))
  | list ds | tuple ds => .ok ds
  | dict members => .ok (members.map (·.1))
  | bytes b => .ok (b.map fun x => int x.toNat)
  | d => .error (.notList d.kindName)

/-- The paths that a value gives one after another: what counts as no gives none. -/
def pathTexts (d : Document) : Except Misuse (List String) :=
  if d.isYes then do (← d.held).mapM pathText else .ok []

end ContractBuild.Document
