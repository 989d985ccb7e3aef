/-!
# Bytes of a text

A text is stored as its UTF-8 bytes. `decode?_encode`: reading them gives the text back. Bytes that
are no text have a first fault, and `fault?` finds it.
-/

namespace ContractBuild

abbrev Bytes := List UInt8

namespace Text

/-- The UTF-8 bytes of a text. -/
def encode (s : String) : Bytes := s.toByteArray.data.toList

/-- The text whose UTF-8 bytes are given. -/
def decode? (b : Bytes) : Option String := String.fromUTF8? ⟨b.toArray⟩

@[simp] theorem decode?_encode (s : String) : decode? (encode s) = some s := by
  have h : (⟨(encode s).toArray⟩ : ByteArray) = s.toByteArray := by simp [encode]
  simp only [decode?, h, String.fromUTF8?, dif_pos s.isValidUTF8]
  rfl

/-! ## Bytes that are no text -/

/-- Why bytes are no text. -/
inductive FaultReason where
  /-- No character starts with the byte. -/
  | start
  /-- A byte that goes on with no character stands where one should. -/
  | continuation
  /-- The bytes end within a character. -/
  | ending
  deriving DecidableEq, Repr

def FaultReason.message : FaultReason → String
  | start => "invalid start byte"
  | continuation => "invalid continuation byte"
  | ending => "unexpected end of data"

/-- The first fault of bytes that are no text. -/
structure Fault where
  position : Nat
  /-- The bytes at the fault that could be the beginning of a character. -/
  bad : Bytes
  reason : FaultReason
  deriving DecidableEq, Repr

/-- The ranges in which the bytes after a first byte lie; a first byte that starts no character has
none. -/
def following (first : UInt8) : Option (List (UInt8 × UInt8)) :=
  let any : UInt8 × UInt8 := (0x80, 0xbf)
  if first < 0x80 then some []
  else if first < 0xc2 then none
  else if first < 0xe0 then some [any]
  else if first < 0xf0 then
    some [(if first = 0xe0 then 0xa0 else 0x80, if first = 0xed then 0x9f else 0xbf), any]
  else if first < 0xf5 then
    some [(if first = 0xf0 then 0x90 else 0x80, if first = 0xf4 then 0x8f else 0xbf), any, any]
  else none

/-- Follows the bytes of one character: the reason why they are none, or nothing, and the bytes that
fit. -/
def follow : List (UInt8 × UInt8) → Bytes → Option FaultReason × Bytes
  | [], _ => (none, [])
  | _ :: _, [] => (some .ending, [])
  | r :: rs, b :: bs =>
    if r.1 ≤ b && b ≤ r.2 then
      let found := follow rs bs
      (found.1, b :: found.2)
    else (some .continuation, [])

/-- The first fault of bytes, of which the first stands at `position`; `skip` bytes belong to a
character that was already read. -/
def faultFrom (position skip : Nat) : Bytes → Option Fault
  | [] => none
  | b :: bs =>
    if 0 < skip then faultFrom (position + 1) (skip - 1) bs
    else
      match following b with
      | none => some ⟨position, [b], .start⟩
      | some rs =>
        match follow rs bs with
        | (some reason, fitting) => some ⟨position, b :: fitting, reason⟩
        | (none, fitting) => faultFrom (position + 1) fitting.length bs

/-- The first fault of bytes. -/
def fault? (b : Bytes) : Option Fault := faultFrom 0 0 b

end Text

end ContractBuild
