import ContractBuild.Text.Width

/-!
# Tabs

A tab stands for the spaces up to the next column that is a multiple of eight, at least one.
Columns are counted from the start of the line by display width. Nothing else changes.
-/

namespace ContractBuild.Text

/-- The distance between tab stops. -/
def tabStop : Nat := 8

/-- The columns between a column and the first tab stop that is not before it. -/
def toTabStop (column : Nat) : Nat := (tabStop - column % tabStop) % tabStop

/-- Replaces the tabs of the rest of a line that starts in the given column. The first space of a
tab is measured together with the text before it. -/
def expandLine (column : Nat) (cs : List Char) : List Char :=
  let part := cs.takeWhile (· ≠ '\t')
  match _h : cs.dropWhile (· ≠ '\t') with
  | [] => part
  | _ :: rest =>
    let reached := column + width (part ++ [' '])
    part ++ ' ' :: List.replicate (toTabStop reached) ' ' ++
      expandLine (reached + toTabStop reached) rest
  termination_by cs.length
  decreasing_by
    have := (List.dropWhile_sublist (· ≠ '\t') (l := cs)).length_le
    rw [_h, List.length_cons] at this
    omega

/-- Replaces the tabs of a text by spaces. -/
def expandTabs (cs : List Char) : List Char :=
  let line := cs.takeWhile (· ≠ '\n')
  match _h : cs.dropWhile (· ≠ '\n') with
  | [] => expandLine 0 line
  | _ :: rest => expandLine 0 line ++ '\n' :: expandTabs rest
  termination_by cs.length
  decreasing_by
    have := (List.dropWhile_sublist (· ≠ '\n') (l := cs)).length_le
    rw [_h, List.length_cons] at this
    omega

end ContractBuild.Text
