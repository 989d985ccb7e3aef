/-!
# Code point ranges

A property of characters given as a table of closed code point ranges.
-/

namespace ContractBuild.Text

/-- Whether the code point of `c` lies in one of the closed ranges of `table`. -/
def inRanges (table : List (Nat × Nat)) (c : Char) : Bool :=
  table.any fun r => r.1 ≤ c.toNat && c.toNat ≤ r.2

end ContractBuild.Text
