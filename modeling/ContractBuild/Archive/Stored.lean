import ContractBuild.Text.Utf8

/-!
# Stored blocks

The part of the deflate format that needs no compression: bytes cut into blocks of at most 65535,
each with a mark on the last block, its length and the complement of its length. `unpack?_pack`:
unpacking what was packed gives the bytes back.
-/

namespace ContractBuild.Archive

/-- A number as two bytes, the low one first. -/
def le16 (n : Nat) : Bytes := [(n % 256).toUInt8, (n / 256 % 256).toUInt8]

/-- A number as four bytes, the low ones first. -/
def le32 (n : Nat) : Bytes := le16 (n % 65536) ++ le16 (n / 65536)

/-- A number as eight bytes, the low ones first. -/
def le64 (n : Nat) : Bytes := le32 (n % 4294967296) ++ le32 (n / 4294967296)

/-- The number that two bytes stand for. -/
def ofLe16 (a b : UInt8) : Nat := a.toNat + 256 * b.toNat

theorem ofLe16_le16 {n : Nat} (h : n < 65536) :
    ofLe16 (n % 256).toUInt8 (n / 256 % 256).toUInt8 = n := by
  simp only [ofLe16, Nat.toUInt8_eq, UInt8.toNat_ofNat', Nat.reducePow, Nat.mod_mod]
  omega

namespace Stored

/-- The most bytes that one block holds. -/
def maxBlock : Nat := 65535

/-- One block; `last` marks the final one. -/
def block (last : Bool) (bs : Bytes) : Bytes :=
  (if last then 1 else 0) :: le16 bs.length ++ le16 (65535 - bs.length) ++ bs

/-- Packs bytes into blocks. There is always a last block, even for no bytes. -/
def pack (bs : Bytes) : Bytes :=
  if maxBlock < bs.length then block false (bs.take maxBlock) ++ pack (bs.drop maxBlock)
  else block true bs
  termination_by bs.length
  decreasing_by simp only [List.length_drop, maxBlock] at *; omega

/-- Unpacks blocks up to and including the last one; the second part is what follows it. -/
def unpack? : Bytes → Option (Bytes × Bytes)
  | mark :: a :: b :: c :: d :: rest =>
    let n := ofLe16 a b
    if ofLe16 c d ≠ 65535 - n ∨ rest.length < n then none
    else if mark = 1 then some (rest.take n, rest.drop n)
    else if mark = 0 then
      (unpack? (rest.drop n)).map fun (more, after) => (rest.take n ++ more, after)
    else none
  | _ => none
  termination_by bs => bs.length
  decreasing_by simp only [List.length_drop, List.length_cons]; omega

theorem unpack?_block (last : Bool) (bs rest : Bytes) (h : bs.length ≤ maxBlock) :
    unpack? (block last bs ++ rest) =
      if last then some (bs, rest)
      else (unpack? rest).map fun (more, after) => (bs ++ more, after) := by
  have hn : bs.length < 65536 := by simp only [maxBlock] at h; omega
  have hc : 65535 - bs.length < 65536 := by omega
  simp only [block, le16, List.cons_append, List.nil_append]
  rw [unpack?]
  have hfits : ¬ (ofLe16 ((65535 - bs.length) % 256).toUInt8
        ((65535 - bs.length) / 256 % 256).toUInt8 ≠ 65535 - bs.length ∨
      (bs ++ rest).length < bs.length) := by
    rw [ofLe16_le16 hc, List.length_append]
    omega
  simp only [ofLe16_le16 hn]
  rw [if_neg hfits, List.take_left, List.drop_left]
  cases last with
  | false => rw [if_neg (by decide), if_pos (by rfl)]; rfl
  | true => rw [if_pos (by rfl)]; rfl

/-- Unpacking gives the packed bytes and leaves what follows them. -/
theorem unpack?_pack (bs rest : Bytes) : unpack? (pack bs ++ rest) = some (bs, rest) := by
  unfold pack
  split
  · next h =>
    rw [List.append_assoc, unpack?_block _ _ _ (by simp only [List.length_take]; omega)]
    rw [unpack?_pack (bs.drop maxBlock) rest]
    simp
  · next h =>
    rw [unpack?_block _ _ _ (by omega)]
    simp
  termination_by bs.length
  decreasing_by simp only [List.length_drop, maxBlock] at *; omega

end Stored

end ContractBuild.Archive
