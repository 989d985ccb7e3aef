import ContractBuild.Document.Json
import ContractBuild.Text.Loose

/-!
# What an engine hands over

An engine answers with values that nothing has checked: a name, a verdict, one value for each
artifact. `Value` is such a value as far as this library tells one from another: a document, or a
text that cannot be encoded. `shown` is the document that stands for a value wherever only its kind
or its look matters, which a loose text shares with the text of its written-out halves.

Loose texts deeper inside a list or a dictionary are left out. Serializing them fails in the same
place and in the same way as a loose text on its own does, before any file is opened.
-/

namespace ContractBuild

inductive Value where
  | document (d : Document)
  | loose (t : Text.Loose)
  deriving Repr

namespace Value

instance : Coe Document Value := ⟨document⟩

instance : Inhabited Value := ⟨document .null⟩

@[match_pattern]
abbrev null : Value := document .null

@[match_pattern]
abbrev str (s : String) : Value := document (.str s)

/-- The value that a text is. -/
def ofRaw : Text.Raw → Value
  | .sound s => str s
  | .loose t => loose t

/-- A text that may be missing. -/
def ofOption : Option Text.Raw → Value
  | none => null
  | some t => ofRaw t

/-- The document by which a value is told from others of its kind. -/
def shown : Value → Document
  | document d => d
  | loose t => .str t.shown

/-- Whether a value counts as yes. A loose text is not empty. -/
def isYes : Value → Bool
  | document d => d.isYes
  | loose _ => true

end Value

end ContractBuild
