import ContractBuild.Archive.CodeLengths
import ContractBuild.Archive.Repeats
import ContractBuild.Archive.Zip

/-!
# Packed entries

How long an entry is once it is packed in the deflate format, and where that length shows: on a
device that keeps nothing.

Packing replaces bytes that stand some way before by a reference to them. A repeat that starts at
one byte is put off if a longer one starts at the next byte; the byte in between is then packed as
it is. Bytes and references are collected into blocks, and a block is written with codes of its own,
with the fixed codes of the format, or as it is, whichever is shortest.
-/

namespace ContractBuild.Archive

/-- The symbol of a length, counted from the shortest, and the number of its further bits. -/
def lengthSymbol (n : Nat) : Nat × Nat :=
  let m := n - 3
  if m < 8 then (m, 0)
  else if n = Repeat.longest then (28, 0)
  else
    let further := m.log2 - 2
    (4 * further + m >>> further, further)

/-- The symbol of a distance and the number of its further bits. -/
def distanceSymbol (d : Nat) : Nat × Nat :=
  let m := d - 1
  if m < 4 then (m, 0)
  else
    let further := m.log2 - 1
    (2 * further + m >>> further, further)

/-! ## Blocks -/

/-- What a block holds so far. -/
structure Block where
  /-- Where the block starts in the content. -/
  start : Nat
  /-- How many bytes and references it holds. -/
  size : Nat := 0
  /-- How often each byte occurs, the end of the block, and each length. -/
  literals : Array Nat := (Array.replicate 286 0).setIfInBounds 256 1
  /-- How often each distance occurs. -/
  distances : Array Nat := Array.replicate 30 0
  /-- The further bits of the references. -/
  further : Nat := 0

namespace Block

/-- How many bytes and references a block holds at most. -/
def most : Nat := 16383

def addByte (b : Block) (byte : UInt8) : Block :=
  { b with size := b.size + 1, literals := b.literals.modify byte.toNat (· + 1) }

def addRepeat (b : Block) (r : Repeat) : Block :=
  let (length, more) := lengthSymbol r.length
  let (distance, still) := distanceSymbol r.distance
  { b with
    size := b.size + 1
    literals := b.literals.modify (257 + length) (· + 1)
    distances := b.distances.modify distance (· + 1)
    further := b.further + more + still }

/-- The length of a byte or a length in the fixed code. -/
def fixedLength (n : Nat) : Nat :=
  if n < 144 then 8 else if n < 256 then 9 else if n < 280 then 7 else 8

/-- The bits of a block with the fixed codes. -/
def fixedBits (b : Block) : Nat :=
  3 + codedBits b.literals #[] fixedLength + codedBits b.distances #[] (fun _ => 5) + b.further

/-- The bits of a block with codes of its own. -/
def ownBits (b : Block) : Nat :=
  let literals := codeLengths 15 (withTwo b.literals)
  let distances := codeLengths 15 (withTwo b.distances)
  3 + headBits literals distances + codedBits b.literals literals (fun _ => 0)
    + codedBits b.distances distances (fun _ => 0) + b.further

/-- Bits as whole bytes. -/
def bytesOf (bits : Nat) : Nat := (bits + 7) / 8

/-- The bits written once a block that ends at a place is written behind so many bits. A block that
is kept as it is starts at a whole byte. -/
def close (b : Block) (stop bits : Nat) : Nat :=
  let plain := stop - b.start
  let fixed := b.fixedBits
  let own := b.ownBits
  if plain + 4 ≤ min (bytesOf fixed) (bytesOf own) then 8 * (bytesOf (bits + 3) + 4 + plain)
  else if bytesOf fixed ≤ bytesOf own then bits + fixed
  else bits + own

end Block

/-! ## Sizes -/

/-- What was written on the way through a content. -/
structure Written where
  bits : Nat := 0
  /-- The bytes handed on before the end of the content was in sight. -/
  early : Nat := 0

/-- How much must follow for the end of a content not to be in sight. -/
def sight : Nat := 262

/-- Closes a full block at `stop`, on the way at `p`. -/
def closeFull (size p stop : Nat) (b : Block) (w : Written) : Block × Written :=
  if b.size = Block.most then
    let bits := b.close stop w.bits
    ({ start := stop }, { bits, early := if sight ≤ size - p then bits / 8 else w.early })
  else (b, w)

/-- Packs a content from `p` on. If a byte is `pending`, the one before `p` is not packed yet, and
`behind` is the repeat that starts there. -/
def packFrom (data : Array UInt8) (p : Nat) (pending : Bool) (behind : Repeat) (c : Chains)
    (b : Block) (w : Written) : Written :=
  if _h : p < data.size then
    let found := c.repeatAt data p behind
    let c := c.add data p
    if _hl : 3 ≤ behind.length ∧ found.length ≤ behind.length then
      let stop := p + (behind.length - 1)
      let (b, w) := closeFull data.size p stop (b.addRepeat behind) w
      packFrom data stop false .none (Chains.addMany data (behind.length - 2) (p + 1) c) b w
    else if pending then
      let (b, w) := closeFull data.size p p (b.addByte (data.getD (p - 1) 0)) w
      packFrom data (p + 1) true found c b w
    else packFrom data (p + 1) true found c b w
  else
    let b := if pending then b.addByte (data.getD (p - 1) 0) else b
    { w with bits := b.close data.size w.bits }
  termination_by data.size - p
  decreasing_by all_goals omega

/-- The bytes of packed content, those handed on before its end was in sight and the others. -/
def packedSizes (content : Bytes) : Nat × Nat :=
  let data := content.toArray
  let w := packFrom data 0 false .none (Chains.empty data.size) { start := 0 } {}
  (w.early, Block.bytesOf w.bits - w.early)

/-! ## A device that keeps nothing -/

/-- How many bytes are gathered before they go to a device. -/
def gathered : Nat := 4096

/-- The place reached on a device that keeps nothing, as it seems after one more piece. Such a
device always tells its beginning, so only what was gathered counts. -/
def seemingPlace (place piece : Nat) : Nat :=
  if place + piece ≤ gathered ∧ piece < gathered then place + piece
  else if gathered < piece then 0
  else piece

/-- Whether an entry can be written to a device that keeps nothing: the record in the directory,
which starts at the beginning once more, must not seem to end before it starts. -/
def fitsNowhere (e : Entry) : Bool :=
  let name := e.nameBytes.length
  let header := 30 + name + if wideHeader e.content.length then 20 else 0
  let record := 46 + name + if e.isWide then 20 else 0
  let (early, late) := packedSizes e.content
  [header, early, late].foldl seemingPlace 0 ≤ record

end ContractBuild.Archive
