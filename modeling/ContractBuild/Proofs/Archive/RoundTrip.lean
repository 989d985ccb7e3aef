import ContractBuild.Archive.Zip

/-!
# Archives read back

An archive of one entry, written and read again, gives back the entry under the name that is stored,
with the fixed time and its content (`read?_ofEntry`). The one condition is that the entry fits the
format. Reading goes field by field, so there is one lemma for each kind of field, one for each
record, and the sizes may stand in either of two places.
-/

namespace ContractBuild.Archive

/-! ## Fields -/

@[simp] theorem length_le16 (n : Nat) : (le16 n).length = 2 := rfl

@[simp] theorem length_le32 (n : Nat) : (le32 n).length = 4 := rfl

@[simp] theorem length_le64 (n : Nat) : (le64 n).length = 8 := rfl

theorem u16?_le16 {n : Nat} (h : n < 65536) (rest : Bytes) :
    u16? (le16 n ++ rest) = some (n, rest) := by
  simp only [le16, List.cons_append, List.nil_append, u16?, ofLe16_le16 h]

theorem u32?_le32 {n : Nat} (h : n < 4294967296) (rest : Bytes) :
    u32? (le32 n ++ rest) = some (n, rest) := by
  have hlow : n % 65536 < 65536 := Nat.mod_lt _ (by decide)
  have hhigh : n / 65536 < 65536 := by omega
  have hsum : n % 65536 + 65536 * (n / 65536) = n := Nat.mod_add_div _ _
  simp [u32?, le32, u16?_le16 hlow, u16?_le16 hhigh, hsum]

theorem u64?_le64 {n : Nat} (h : n < 18446744073709551616) (rest : Bytes) :
    u64? (le64 n ++ rest) = some (n, rest) := by
  have hlow : n % 4294967296 < 4294967296 := Nat.mod_lt _ (by decide)
  have hhigh : n / 4294967296 < 4294967296 := by omega
  have hsum : n % 4294967296 + 4294967296 * (n / 4294967296) = n := Nat.mod_add_div _ _
  simp [u64?, le64, u32?_le32 hlow, u32?_le32 hhigh, hsum]

theorem bytes?_append (bs rest : Bytes) : bytes? bs.length (bs ++ rest) = some (bs, rest) := by
  simp [bytes?]

/-- Bytes of a known length are split off whole. -/
theorem bytes?_of_length {bs : Bytes} {n : Nat} (h : bs.length = n) (rest : Bytes) :
    bytes? n (bs ++ rest) = some (bs, rest) := h ▸ bytes?_append bs rest

/-! ## Sizes -/

/-- Packing never shortens a content, and hardly lengthens it. -/
theorem length_pack (bs : Bytes) :
    bs.length ≤ (Stored.pack bs).length ∧ (Stored.pack bs).length ≤ 2 * bs.length + 5 := by
  have hblock : ∀ last (b : Bytes), (Stored.block last b).length = b.length + 5 := by
    intro last b
    simp only [Stored.block, List.length_append, List.length_cons, length_le16]
    omega
  unfold Stored.pack
  split
  next h =>
    have ih := length_pack (bs.drop Stored.maxBlock)
    simp only [List.length_append, hblock, List.length_take, List.length_drop,
      Stored.maxBlock] at h ih ⊢
    omega
  next =>
    rw [hblock]
    omega
  termination_by bs.length
  decreasing_by simp only [List.length_drop, Stored.maxBlock] at *; omega

/-- The bounds within which every number of an entry fits its field. -/
structure Entry.Fits (e : Entry) : Prop where
  name : e.nameBytes.length < 65536
  total : (ofEntry e).length < 18446744073709551616

theorem Entry.fits_of_misfit? {e : Entry} (h : e.misfit? = none) : e.Fits := by
  unfold misfit? at h
  split at h
  next => simp at h
  next htotal =>
    split at h
    next => simp at h
    next hname => exact ⟨Nat.lt_of_not_le hname, Nat.lt_of_not_le htotal⟩

theorem length_extraField (wide : Bool) (packed content : Nat) :
    (extraField wide packed content).length = if wide then 20 else 0 := by
  cases wide <;> rfl

/-! ## Records -/

/-- A size as its field of four bytes holds it. -/
def sizeField (wide : Bool) (size : Nat) : Nat := if wide then wideMark else size

theorem sizeFields_eq (wide : Bool) (packed content : Nat) :
    sizeFields wide packed content
      = le32 (sizeField wide packed) ++ le32 (sizeField wide content) := by
  cases wide <;> rfl

/-- The header of an entry as it is read. -/
def Entry.header (e : Entry) (wide : Bool) : Header where
  method := deflated
  stamp := .earliest
  crc := (crc e.content).toNat
  packedSize := sizeField wide e.packed.length
  size := sizeField wide e.content.length
  nameSize := e.nameBytes.length
  extraSize := (extraField wide e.packed.length e.content.length).length

/-- Sizes that stand in their fields fit them. -/
def Entry.Narrow (e : Entry) (wide : Bool) : Prop :=
  wide = false → e.packed.length < wideMark ∧ e.content.length < wideMark

theorem header?_sharedFields {e : Entry} {wide : Bool} (hname : e.nameBytes.length < 65536)
    (hnarrow : e.Narrow wide) (rest : Bytes) :
    header? (sharedFields wide e.nameBytes e.packed e.content ++ rest)
      = some (e.header wide, rest) := by
  have hversion : versionNeeded e.content.length < 65536 := by
    unfold versionNeeded
    split <;> decide
  have hflag : nameFlag e.nameBytes < 65536 := by
    unfold nameFlag
    split <;> decide
  have hmethod : deflated < 65536 := by decide
  have htime : Stamp.earliest.time < 65536 := by decide
  have hdate : Stamp.earliest.date < 65536 := by decide
  have hcrc : (crc e.content).toNat < 4294967296 := (crc e.content).toNat_lt
  have hextra : (extraField wide e.packed.length e.content.length).length < 65536 := by
    rw [length_extraField]
    split <;> decide
  -- a wide size leaves its mark in the narrow field
  have hsizes : sizeField wide e.packed.length < 4294967296
      ∧ sizeField wide e.content.length < 4294967296 := by
    have hmark : wideMark < 4294967296 := by decide
    cases wide with
    | true => exact ⟨hmark, hmark⟩
    | false =>
      obtain ⟨hpacked, hcontent⟩ := hnarrow rfl
      exact ⟨Nat.lt_trans hpacked hmark, Nat.lt_trans hcontent hmark⟩
  simp only [sharedFields, sizeFields_eq, List.append_assoc, header?, u16?_le16 hversion,
    u16?_le16 hflag, u16?_le16 hmethod, u16?_le16 htime, u16?_le16 hdate, u32?_le32 hcrc,
    u32?_le32 hsizes.1, u32?_le32 hsizes.2, u16?_le16 hname, u16?_le16 hextra,
    Option.bind_eq_bind, Option.bind_some]
  rfl

/-- The sizes of an entry are found wherever they stand. -/
theorem sizes?_header {e : Entry} {wide : Bool} (hnarrow : e.Narrow wide)
    (hpacked : e.packed.length < 18446744073709551616)
    (hcontent : e.content.length < 18446744073709551616) :
    (e.header wide).sizes? (extraField wide e.packed.length e.content.length)
      = some (e.packed.length, e.content.length) := by
  cases wide with
  | true =>
    have hrest : u64? (le64 e.packed.length) = some (e.packed.length, []) := by
      simpa using u64?_le64 hpacked []
    simp only [Header.sizes?, Entry.header, sizeField, extraField, if_true, and_self,
      List.append_assoc, u16?_le16 (by decide : 1 < 65536), u16?_le16 (by decide : 16 < 65536),
      u64?_le64 hcontent, hrest, Option.bind_eq_bind, Option.bind_some]
    rfl
  | false =>
    obtain ⟨hp, -⟩ := hnarrow rfl
    have hne : ¬ (e.packed.length = wideMark ∧ e.content.length = wideMark) :=
      fun h => absurd h.1 (Nat.ne_of_lt hp)
    simp [Header.sizes?, Entry.header, sizeField, hne]

/-- What a reader finds in the archive of an entry. -/
def Entry.member (e : Entry) : Member where
  name := storedName e.name
  stamp := .earliest
  method := deflated
  content := e.content

theorem length_ofEntry (e : Entry) :
    (localRecord e).length + (centralRecord e 0).length ≤ (ofEntry e).length := by
  simp only [ofEntry, List.length_append]
  omega

theorem length_packed_le_localRecord (e : Entry) :
    e.packed.length ≤ (localRecord e).length := by
  simp only [localRecord, List.length_append]
  omega

/-- Every size of an entry that fits has eight bytes at most. -/
theorem Entry.Fits.sizes {e : Entry} (h : e.Fits) :
    e.packed.length < 18446744073709551616 ∧ e.content.length < 18446744073709551616 := by
  have htotal := h.total
  have hrecords := length_ofEntry e
  have hlocal := length_packed_le_localRecord e
  have hpack := (length_pack e.content).1
  have hpacked : e.packed.length < 18446744073709551616 := by omega
  exact ⟨hpacked, Nat.lt_of_le_of_lt hpack hpacked⟩

/-- The sizes in the header of an entry are narrow unless the content is so long that they are
wide. -/
theorem narrow_wideHeader (e : Entry) : e.Narrow (wideHeader e.content.length) := by
  intro h
  have hsize : ¬ 100 * maxNarrow < 105 * e.content.length := of_decide_eq_false h
  have hpack : e.packed.length ≤ 2 * e.content.length + 5 := (length_pack e.content).2
  simp only [maxNarrow] at hsize
  simp only [wideMark]
  omega

theorem narrow_isWide (e : Entry) : e.Narrow e.isWide := by
  intro h
  obtain ⟨hcontent, hpacked⟩ := Bool.or_eq_false_iff.1 h
  have hcontent : ¬ maxNarrow < e.content.length := of_decide_eq_false hcontent
  have hpacked : ¬ maxNarrow < e.packed.length := of_decide_eq_false hpacked
  simp only [maxNarrow] at hcontent hpacked
  simp only [wideMark]
  omega

theorem member?_localRecord {e : Entry} (h : e.Fits) (rest : Bytes) :
    member? (localRecord e ++ rest) = some (e.member, rest) := by
  have hnarrow := narrow_wideHeader e
  have hsizes := sizes?_header hnarrow h.sizes.1 h.sizes.2
  have hunpack : Stored.unpack? e.packed = some (e.content, []) := by
    rw [Entry.packed, ← List.append_nil (Stored.pack e.content), Stored.unpack?_pack]
  have hname : bytes? (e.header (wideHeader e.content.length)).nameSize
      = bytes? e.nameBytes.length := rfl
  have hextra : bytes? (e.header (wideHeader e.content.length)).extraSize
      = bytes? (extraField (wideHeader e.content.length) e.packed.length
        e.content.length).length := rfl
  have hdecode : Text.decode? e.nameBytes = some (storedName e.name) := Text.decode?_encode _
  simp only [member?, localRecord, List.append_assoc,
    u32?_le32 (by decide : 0x04034b50 < 4294967296), header?_sharedFields h.name hnarrow, hname,
    hextra, bytes?_append, hsizes, hunpack, hdecode, Option.bind_eq_bind, Option.bind_some, ne_eq,
    not_true_eq_false, if_false]
  rw [if_pos ⟨rfl, trivial, trivial, rfl⟩]
  rfl

theorem skipCentral?_centralRecord {e : Entry} (h : e.Fits) (rest : Bytes) :
    skipCentral? (centralRecord e 0 ++ rest) = some rest := by
  have hversion : 0x0300 + versionNeeded e.content.length < 65536 := by
    unfold versionNeeded
    split <;> decide
  have hfixed : ∀ bs, bytes? (2 + 2 + 4 + 4)
      (le16 0 ++ (le16 0 ++ (le32 0x01800000 ++ (le32 0 ++ bs))))
        = some (le16 0 ++ (le16 0 ++ (le32 0x01800000 ++ le32 0)), bs) := by
    intro bs
    rw [← bytes?_of_length (n := 2 + 2 + 4 + 4) (by rfl) bs]
    simp only [List.append_assoc]
  have hnames : ∀ bs, bytes? ((e.header e.isWide).nameSize + (e.header e.isWide).extraSize + 0)
      (e.nameBytes ++ (extraField e.isWide e.packed.length e.content.length ++ bs))
        = some (e.nameBytes ++ extraField e.isWide e.packed.length e.content.length, bs) := by
    intro bs
    rw [← List.append_assoc]
    exact bytes?_of_length (by rw [List.length_append]; rfl) bs
  simp only [skipCentral?, centralRecord, List.append_assoc,
    u32?_le32 (by decide : 0x02014b50 < 4294967296), u16?_le16 hversion,
    header?_sharedFields h.name (narrow_isWide e), u16?_le16 (by decide : 0 < 65536), hfixed,
    hnames, Option.bind_eq_bind, Option.bind_some, ne_eq, not_true_eq_false, if_false]
  rfl

/-! ## The end -/

theorem length_endRecord (size offset : Nat) : (endRecord size offset).length = 22 := rfl

theorem end?_endRecord (before : Bytes) (size offset : Nat) : end? (before ++ endRecord size offset)
    = some (1, min size wideMark, min offset wideMark) := by
  have hbefore : (before ++ endRecord size offset).length - 22 = before.length := by
    rw [List.length_append, length_endRecord, Nat.add_sub_cancel]
  have hmark : wideMark < 4294967296 := by decide
  have hsize : min size wideMark < 4294967296 := Nat.lt_of_le_of_lt (Nat.min_le_right _ _) hmark
  have hoffset : min offset wideMark < 4294967296 :=
    Nat.lt_of_le_of_lt (Nat.min_le_right _ _) hmark
  have hdisks : ∀ bs, u32? (le16 0 ++ (le16 0 ++ bs)) = some (0, bs) :=
    fun bs => u32?_le32 (by decide : 0 < 4294967296) bs
  have hcomment : u16? (le16 0) = some (0, []) := u16?_le16 (by decide : 0 < 65536) []
  rw [end?, hbefore, bytes?_append]
  simp only [endRecord, List.append_assoc, u32?_le32 (by decide : 0x06054b50 < 4294967296), hdisks,
    u16?_le16 (by decide : 1 < 65536), u32?_le32 hsize, u32?_le32 hoffset, hcomment,
    Option.bind_eq_bind, Option.bind_some, ne_eq, not_true_eq_false, if_false]
  rfl

/-- What stands at the end of a narrow archive is no wide end. -/
theorem wideEnd?_endRecord (size offset : Nat) : wideEnd? (endRecord size offset) = none := by
  simp only [wideEnd?, endRecord, List.append_assoc,
    u32?_le32 (by decide : 0x06054b50 < 4294967296), Option.bind_eq_bind, Option.bind_some]
  rfl

theorem wideEnd?_wideEnd {size offset : Nat} (h : offset + size < 18446744073709551616)
    (rest : Bytes) : wideEnd? (wideEnd size offset ++ rest) = some ((size, offset), rest) := by
  have hsize : size < 18446744073709551616 := by omega
  have hoffset : offset < 18446744073709551616 := by omega
  have hfixed : ∀ bs, bytes? (8 + 2 + 2 + 4 + 4 + 8 + 8)
      (le64 44 ++ (le16 45 ++ (le16 45 ++ (le32 0 ++ (le32 0 ++ (le64 1 ++ (le64 1 ++ bs)))))))
        = some (le64 44 ++ (le16 45 ++ (le16 45 ++ (le32 0 ++ (le32 0 ++ (le64 1 ++ le64 1))))),
          bs) := by
    intro bs
    rw [← bytes?_of_length (n := 8 + 2 + 2 + 4 + 4 + 8 + 8) (by rfl) bs]
    simp only [List.append_assoc]
  simp only [wideEnd?, wideEnd, List.append_assoc,
    u32?_le32 (by decide : 0x06064b50 < 4294967296), hfixed, u64?_le64 hsize, u64?_le64 hoffset,
    u32?_le32 (by decide : 0x07064b50 < 4294967296), u32?_le32 (by decide : 0 < 4294967296),
    u64?_le64 h, u32?_le32 (by decide : 1 < 4294967296), Option.bind_eq_bind, Option.bind_some,
    ne_eq, not_true_eq_false, if_false, if_true]
  rfl

theorem length_wideEnd (size offset : Nat) : (wideEnd size offset).length = 76 := rfl

/-- The archive of an entry that fits the format reads back as that entry. -/
theorem read?_ofEntry {e : Entry} (h : e.misfit? = none) :
    read? (ofEntry e) = some [e.member] := by
  have hfits := Entry.fits_of_misfit? h
  have htotal := hfits.total
  have hrecords := length_ofEntry e
  have hmember : ∀ bs, repeat? member? 1 (localRecord e ++ bs) = some ([e.member], bs) := by
    intro bs
    simp only [repeat?, member?_localRecord hfits, Option.bind_eq_bind, Option.bind_some]
    rfl
  have hcentral : ∀ bs, repeat? (fun bs => (skipCentral? bs).map fun rest => ((), rest)) 1
      (centralRecord e 0 ++ bs) = some ([()], bs) := by
    intro bs
    simp only [repeat?, skipCentral?_centralRecord hfits, Option.map_some, Option.bind_eq_bind,
      Option.bind_some]
    rfl
  have hend : end? (ofEntry e) = some (1, min (centralRecord e 0).length wideMark,
      min (localRecord e).length wideMark) := end?_endRecord ..
  rw [read?, hend]
  simp only [Option.bind_eq_bind, Option.bind_some]
  have hparts : ofEntry e = localRecord e ++ (centralRecord e 0 ++
      ((if maxNarrow < (localRecord e).length ∨ maxNarrow < (centralRecord e 0).length then
          wideEnd (centralRecord e 0).length (localRecord e).length else [])
        ++ endRecord (centralRecord e 0).length (localRecord e).length)) := by
    simp only [ofEntry, List.append_assoc, Bool.or_eq_true, decide_eq_true_eq]
  rw [hparts]
  simp only [hmember, hcentral, Option.bind_some]
  -- the sizes of the records stand in the wide end or, without one, in the end record
  by_cases hwide : maxNarrow < (localRecord e).length ∨ maxNarrow < (centralRecord e 0).length
  · simp only [if_pos hwide]
    rw [wideEnd?_wideEnd (by omega)]
    simp only [length_endRecord, List.length_append, length_wideEnd]
    rw [if_pos ⟨trivial, by omega⟩]
    rfl
  · simp only [if_neg hwide]
    rw [List.nil_append, wideEnd?_endRecord]
    simp only [length_endRecord, List.length_append]
    rw [if_pos ⟨trivial, by simp only [maxNarrow, wideMark] at hwide ⊢; omega⟩]
    rfl

end ContractBuild.Archive
