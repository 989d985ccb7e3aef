import ContractBuild.Archive.Crc
import ContractBuild.Archive.Stored

/-!
# Archives

An archive of named entries in the zip format, with which the debug information of a compilation
is delivered (`_write_debug_archive` of the program). An entry is written with a fixed time, so
that the same entries always give the same bytes, and its content as stored blocks, which count as
deflated. Sizes that are too great for the fields of the format are wide: they stand in fields of
their own.

Two sides are defined and meet in `Proofs.Archive.RoundTrip`: `ofEntry` writes the archive of a
single entry, and `read?` reads the directory at the end of an archive, and the entries from it,
with their check sums. `Entry.misfit?` says for which entries the format has no room; writing
these ends in an error once the file is open.

Stored blocks are a departure. The program packs contents with a compressor whose choices are not
part of what it promises, so two archives are the same here if they have the same entries. Only
where the length of a packed content shows, on a device that keeps nothing, is it computed
(`Archive.Packed`).
-/

namespace ContractBuild.Archive

/-- An entry of an archive. -/
structure Entry where
  name : String
  content : Bytes
  deriving DecidableEq, Repr

/-- The date and the time of an entry in the packed form of the format. -/
structure Stamp where
  date : Nat
  time : Nat
  deriving DecidableEq, Repr

/-- The first of January 1980 at midnight, the earliest time that the format knows. -/
def Stamp.earliest : Stamp := ⟨33, 0⟩

/-- Year, month, day, hour, minute and second of a stamp. -/
def Stamp.fields (s : Stamp) : List Nat :=
  [1980 + s.date / 512, s.date / 32 % 16, s.date % 32, s.time / 2048, s.time / 32 % 64,
    s.time % 32 * 2]

/-- The name under which an entry is stored: a null character ends it. -/
def storedName (name : String) : String :=
  String.ofList (name.toList.takeWhile (· ≠ '\x00'))

/-- The number of the deflate method. -/
def deflated : Nat := 8

/-- The flag of names in UTF-8, set when a name needs it. -/
def nameFlag (name : Bytes) : Nat := if name.all (· < 0x80) then 0 else 0x800

/-- The greatest size that is not wide. -/
def maxNarrow : Nat := 0x7fffffff

/-- What a field of four bytes holds instead of a wide size. -/
def wideMark : Nat := 0xffffffff

/-- Whether the header of an entry has wide sizes. Packing may add a twentieth to a content. -/
def wideHeader (size : Nat) : Bool := 100 * maxNarrow < 105 * size

/-- The version of the format that an entry needs. -/
def versionNeeded (size : Nat) : Nat := if wideHeader size then 45 else 20

/-- The two sizes of an entry. -/
def sizeFields (wide : Bool) (packed content : Nat) : Bytes :=
  if wide then le32 wideMark ++ le32 wideMark else le32 packed ++ le32 content

/-- The extra field of an entry, which holds wide sizes. -/
def extraField (wide : Bool) (packed content : Nat) : Bytes :=
  if wide then le16 1 ++ le16 16 ++ le64 content ++ le64 packed else []

/-- The fields that the two headers of an entry share, from the version needed to the length of
the extra field. -/
def sharedFields (wide : Bool) (name packed content : Bytes) : Bytes :=
  le16 (versionNeeded content.length) ++ le16 (nameFlag name) ++ le16 deflated
    ++ le16 Stamp.earliest.time ++ le16 Stamp.earliest.date
    ++ le32 (crc content).toNat ++ sizeFields wide packed.length content.length
    ++ le16 name.length ++ le16 (extraField wide packed.length content.length).length

/-- The name of an entry in bytes. -/
def Entry.nameBytes (e : Entry) : Bytes := Text.encode (storedName e.name)

/-- The content of an entry as it is stored. -/
def Entry.packed (e : Entry) : Bytes := Stored.pack e.content

/-- An entry with its header. -/
def localRecord (e : Entry) : Bytes :=
  let wide := wideHeader e.content.length
  le32 0x04034b50 ++ sharedFields wide e.nameBytes e.packed e.content ++ e.nameBytes
    ++ extraField wide e.packed.length e.content.length ++ e.packed

/-- Whether the record of an entry in the directory has wide sizes. -/
def Entry.isWide (e : Entry) : Bool :=
  maxNarrow < e.content.length || maxNarrow < e.packed.length

/-- The record of an entry in the directory of the archive. -/
def centralRecord (e : Entry) (offset : Nat) : Bytes :=
  le32 0x02014b50 ++ le16 (0x0300 + versionNeeded e.content.length)
    ++ sharedFields e.isWide e.nameBytes e.packed e.content
    ++ le16 0 ++ le16 0 ++ le16 0 ++ le32 0x01800000 ++ le32 offset ++ e.nameBytes
    ++ extraField e.isWide e.packed.length e.content.length

/-- The end of an archive of one entry: the size of the directory and where it starts. -/
def endRecord (size offset : Nat) : Bytes :=
  le32 0x06054b50 ++ le16 0 ++ le16 0 ++ le16 1 ++ le16 1
    ++ le32 (min size wideMark) ++ le32 (min offset wideMark) ++ le16 0

/-- What stands before the end of an archive if a number in it is wide: a wide end, and the place
of that. -/
def wideEnd (size offset : Nat) : Bytes :=
  le32 0x06064b50 ++ le64 44 ++ le16 45 ++ le16 45 ++ le32 0 ++ le32 0 ++ le64 1 ++ le64 1
    ++ le64 size ++ le64 offset
    ++ le32 0x07064b50 ++ le32 0 ++ le64 (offset + size) ++ le32 1

/-- The archive of a single entry. -/
def ofEntry (e : Entry) : Bytes :=
  let body := localRecord e
  let directory := centralRecord e 0
  body ++ directory
    ++ (if maxNarrow < body.length || maxNarrow < directory.length then
        wideEnd directory.length body.length else [])
    ++ endRecord directory.length body.length

/-- Why an entry cannot be written: its size or its name does not fit the fields of the format. -/
def Entry.misfit? (e : Entry) : Option String :=
  if 18446744073709551616 ≤ (ofEntry e).length then some "argument out of range"
  else if 65536 ≤ e.nameBytes.length then some "ushort format requires 0 <= number <= 65535"
  else none

/-! ## Reading -/

/-- An entry as an archive holds it. -/
structure Member where
  name : String
  stamp : Stamp
  method : Nat
  content : Bytes
  deriving DecidableEq, Repr

/-- Splits off a number of two bytes. -/
def u16? : Bytes → Option (Nat × Bytes)
  | a :: b :: rest => some (ofLe16 a b, rest)
  | _ => none

/-- Splits off a number of four bytes. -/
def u32? (bs : Bytes) : Option (Nat × Bytes) := do
  let (low, rest) ← u16? bs
  let (high, rest) ← u16? rest
  return (low + 65536 * high, rest)

/-- Splits off a number of eight bytes. -/
def u64? (bs : Bytes) : Option (Nat × Bytes) := do
  let (low, rest) ← u32? bs
  let (high, rest) ← u32? rest
  return (low + 4294967296 * high, rest)

/-- Splits off so many bytes. -/
def bytes? (n : Nat) (bs : Bytes) : Option (Bytes × Bytes) :=
  if n ≤ bs.length then some (bs.take n, bs.drop n) else none

/-- The fields shared by the two headers of an entry. -/
structure Header where
  method : Nat
  stamp : Stamp
  crc : Nat
  packedSize : Nat
  size : Nat
  nameSize : Nat
  extraSize : Nat

/-- Reads the shared fields. -/
def header? (bs : Bytes) : Option (Header × Bytes) := do
  let (_, bs) ← u16? bs
  let (_, bs) ← u16? bs
  let (method, bs) ← u16? bs
  let (time, bs) ← u16? bs
  let (date, bs) ← u16? bs
  let (crc, bs) ← u32? bs
  let (packedSize, bs) ← u32? bs
  let (size, bs) ← u32? bs
  let (nameSize, bs) ← u16? bs
  let (extraSize, bs) ← u16? bs
  return (⟨method, ⟨date, time⟩, crc, packedSize, size, nameSize, extraSize⟩, bs)

/-- The packed size and the size of an entry, which stand in the extra field if they are wide. -/
def Header.sizes? (h : Header) (extra : Bytes) : Option (Nat × Nat) :=
  if h.packedSize = wideMark ∧ h.size = wideMark then do
    let (kind, extra) ← u16? extra
    let (length, extra) ← u16? extra
    let (size, extra) ← u64? extra
    let (packedSize, _) ← u64? extra
    if kind = 1 ∧ length = 16 then return (packedSize, size) else none
  else some (h.packedSize, h.size)

/-- Reads an entry with its header; its content must have the size and the check sum given. -/
def member? (bs : Bytes) : Option (Member × Bytes) := do
  let (mark, bs) ← u32? bs
  if mark ≠ 0x04034b50 then none
  let (h, bs) ← header? bs
  let (name, bs) ← bytes? h.nameSize bs
  let (extra, bs) ← bytes? h.extraSize bs
  let (packedSize, size) ← h.sizes? extra
  let (packed, bs) ← bytes? packedSize bs
  let (content, after) ← Stored.unpack? packed
  let name ← Text.decode? name
  if h.method = deflated ∧ after = [] ∧ content.length = size ∧ (crc content).toNat = h.crc then
    return (⟨name, h.stamp, h.method, content⟩, bs)
  else none

/-- Skips a record of the directory. -/
def skipCentral? (bs : Bytes) : Option Bytes := do
  let (mark, bs) ← u32? bs
  if mark ≠ 0x02014b50 then none
  let (_, bs) ← u16? bs
  let (h, bs) ← header? bs
  let (commentSize, bs) ← u16? bs
  let (_, bs) ← bytes? (2 + 2 + 4 + 4) bs
  let (_, bs) ← bytes? (h.nameSize + h.extraSize + commentSize) bs
  return bs

/-- Reads so many of something one after another. -/
def repeat? {α : Type} (step : Bytes → Option (α × Bytes)) : Nat → Bytes → Option (List α × Bytes)
  | 0, bs => some ([], bs)
  | n + 1, bs => do
    let (a, bs) ← step bs
    let (as, bs) ← repeat? step n bs
    return (a :: as, bs)

/-- The end of an archive without a comment: the number of entries, the size of the directory and
where it starts. -/
def end? (bs : Bytes) : Option (Nat × Nat × Nat) := do
  let (_, bs) ← bytes? (bs.length - 22) bs
  let (mark, bs) ← u32? bs
  if mark ≠ 0x06054b50 then none
  let (_, bs) ← u32? bs
  let (_, bs) ← u16? bs
  let (count, bs) ← u16? bs
  let (size, bs) ← u32? bs
  let (offset, bs) ← u32? bs
  let (comment, _) ← u16? bs
  if comment ≠ 0 then none
  return (count, size, offset)

/-- Reads a wide end and its place: the size of the directory and where it starts. -/
def wideEnd? (bs : Bytes) : Option ((Nat × Nat) × Bytes) := do
  let (mark, bs) ← u32? bs
  if mark ≠ 0x06064b50 then none
  let (_, bs) ← bytes? (8 + 2 + 2 + 4 + 4 + 8 + 8) bs
  let (size, bs) ← u64? bs
  let (offset, bs) ← u64? bs
  let (mark, bs) ← u32? bs
  if mark ≠ 0x07064b50 then none
  let (_, bs) ← u32? bs
  let (place, bs) ← u64? bs
  let (_, bs) ← u32? bs
  if place = offset + size then return ((size, offset), bs) else none

/-- The entries of an archive in which they stand one after another, followed by the directory. -/
def read? (bs : Bytes) : Option (List Member) := do
  let (count, size, offset) ← end? bs
  let (members, rest) ← repeat? member? count bs
  let (_, rest) ← repeat? (fun bs => (skipCentral? bs).map fun rest => ((), rest)) count rest
  match wideEnd? rest with
  | some ((size, offset), rest) =>
    if rest.length = 22 ∧ offset + size + 76 + 22 = bs.length then return members else none
  | none => if rest.length = 22 ∧ offset + size + 22 = bs.length then return members else none

end ContractBuild.Archive
