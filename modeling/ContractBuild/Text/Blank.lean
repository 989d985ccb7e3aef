import ContractBuild.Text.Range

/-!
# Blank characters

Two sets of characters count as blank. `isSpace` is Unicode's White_Space property, which may stand
around a number. `isBlank` adds the four information separators U+001C–U+001F, which settings files
also treat as blank. `isBlank_of_isSpace` orders the two.
-/

namespace ContractBuild.Text

/-- Unicode's White_Space property. -/
def isSpace (c : Char) : Bool :=
  inRanges [(0x9, 0xd), (0x20, 0x20), (0x85, 0x85), (0xa0, 0xa0), (0x1680, 0x1680),
    (0x2000, 0x200a), (0x2028, 0x2029), (0x202f, 0x202f), (0x205f, 0x205f), (0x3000, 0x3000)] c

/-- White space or one of the information separators U+001C–U+001F. -/
def isBlank (c : Char) : Bool :=
  isSpace c || inRanges [(0x1c, 0x1f)] c

theorem isBlank_of_isSpace {c : Char} (h : isSpace c = true) : isBlank c = true := by
  simp [isBlank, h]

/-- Drops the characters satisfying `p` from both ends. -/
def trim (p : Char → Bool) (cs : List Char) : List Char :=
  ((cs.dropWhile p).reverse.dropWhile p).reverse

end ContractBuild.Text
