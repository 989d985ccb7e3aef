import ContractBuild.Host
import ContractBuild.Proofs.Disk.Tests

/-!
# A deep directory

`deepDisk` holds one source, fifteen directories of the longest name deep. Spelled with one slash at
the start, the path of anything named `freshName` beside the source is as long as the operating
system allows; spelled with two, it is just too long (`size_joinText_deepPath`). The disk is too
large to be computed with, so `get?_deepDisk` tells what stands where.
-/

namespace ContractBuild

namespace Disk

/-- Directories of one name, each in the one before. -/
def nest (name : String) : Nat → Disk
  | 0 => .empty
  | n + 1 => (nest name n).put (.replicate (n + 1) name) .folder

variable {name : String}

theorem get?_nest (hname : IsName name) (n : Nat) (k : Location) :
    (nest name n).get? k = if k <+: List.replicate n name then some .folder else none := by
  induction n generalizing k with
  | zero =>
    by_cases hk : k = []
    · simp [hk]
    · simp [nest, empty, get?, hk]
  | succ n ih =>
    have hpresent : (nest name n).get? (List.replicate n name) = some .folder := by
      rw [ih, if_pos (List.prefix_refl _)]
    have hnone : (nest name n).get? (List.replicate (n + 1) name) = none := by
      rw [ih, if_neg fun h => absurd h.length_le (by simp)]
    have haccepts : (nest name n).Accepts (List.replicate (n + 1) name) := by
      rw [List.replicate_succ'] at hnone ⊢
      exact accepts_concat hpresent hname (by simp [hnone])
    have hiff : k <+: List.replicate (n + 1) name ↔
        k = List.replicate (n + 1) name ∨ k <+: List.replicate n name := by
      rw [List.replicate_succ', List.prefix_concat_iff]
    rw [nest, get?_put haccepts, ih]
    by_cases hk : k = List.replicate (n + 1) name
    · simp [hk]
    · simp [hiff, hk]

theorem plain_nest (name : String) (n : Nat) (top : Location) : (nest name n).Plain top := by
  induction n with
  | zero => exact plain_empty top
  | succ n ih => exact ih.put rfl _

end Disk

namespace Build

/-! ## One source, fifteen directories deep -/

/-- The name of each of the directories. -/
def longName : String := repeated 'a' 255

/-- The name of the new folder. -/
def freshName : String := repeated 'b' 254

/-- The location of the directory with the source. -/
def deepFolder : Location := .replicate 15 longName

/-- A disk with one source in the last of fifteen directories. -/
def deepDisk : Disk := (Disk.nest longName 15).put (deepFolder ++ ["Token.cs"]) (.file [])

/-- The directory with the source, in one of its spellings. -/
def deepPath (anchor : Path.Anchor) : Path := .ofComponents anchor deepFolder

theorem isName_longName : Disk.IsName longName ∧ longName.utf8ByteSize = 255 := by
  have hletter : 'a'.utf8Size = 1 := by decide
  rw [longName, utf8ByteSize_repeated, hletter, Nat.mul_one]
  exact ⟨Disk.isName_repeated (by decide) (by decide) (by decide), rfl⟩

theorem isName_freshName : Disk.IsName freshName ∧ freshName.utf8ByteSize = 254 := by
  have hletter : 'b'.utf8Size = 1 := by decide
  rw [freshName, utf8ByteSize_repeated, hletter, Nat.mul_one]
  exact ⟨Disk.isName_repeated (by decide) (by decide) (by decide), rfl⟩

theorem weight_deepFolder : Location.weight deepFolder = 3840 := by
  rw [deepFolder, Location.weight_replicate, isName_longName.2]

theorem get?_deepDisk (k : Location) :
    deepDisk.get? k =
      if k = deepFolder ++ ["Token.cs"] then some (.file [])
      else if k <+: deepFolder then some .folder
      else none := by
  have hnest : ∀ k, (Disk.nest longName 15).get? k
      = if k <+: deepFolder then some .folder else none := Disk.get?_nest isName_longName.1 15
  have hlong : ¬ deepFolder ++ ["Token.cs"] <+: deepFolder := fun h =>
    absurd h.length_le (by simp)
  have hnone : (Disk.nest longName 15).get? (deepFolder ++ ["Token.cs"]) = none := by
    rw [hnest, if_neg hlong]
  have hpresent : (Disk.nest longName 15).get? deepFolder = some .folder := by
    rw [hnest, if_pos (List.prefix_refl _)]
  have haccepts : (Disk.nest longName 15).Accepts (deepFolder ++ ["Token.cs"]) :=
    Disk.accepts_concat hpresent (by decide) (by simp [hnone])
  rw [deepDisk, Disk.get?_put haccepts, hnest]

theorem plain_deepDisk (top : Location) : deepDisk.Plain top :=
  (Disk.plain_nest longName 15 top).put rfl _

theorem linkFree_deepDisk : deepDisk.LinkFree := (plain_deepDisk []).noLinksBelow

theorem deepPath_spec (anchor : Path.Anchor) (hanchor : anchor ≠ .relative) :
    (deepPath anchor).parts = deepFolder ∧ (deepPath anchor).Direct
      ∧ ∀ cwd, deepDisk.LeadsToFolder cwd (deepPath anchor) := by
  have hname : ∀ name ∈ deepFolder, name = longName := fun name => List.eq_of_mem_replicate
  have hparts : (deepPath anchor).parts = deepFolder := by
    simp only [deepPath, Path.ofComponents]
    exact List.filter_eq_self.2 fun name h => hname name h ▸ decide_eq_true isName_longName.1.1
  have habsolute : (deepPath anchor).isAbsolute = true := decide_eq_true hanchor
  have hdirect : (deepPath anchor).Direct := by
    refine ⟨habsolute, fun h => ?_⟩
    rw [hparts] at h
    exact isName_longName.1.2.1 (hname _ h).symm
  have hsize := Path.size_ofPath habsolute (by rw [hparts]; simp [deepFolder])
  have hmax : Disk.maxPath = 4096 := rfl
  rw [hparts, weight_deepFolder] at hsize
  have hnul : (Route.ofPath (deepPath anchor)).hasNul = false := by
    simp only [Route.hasNul, Route.ofPath, hparts, List.any_eq_false]
    intro name h
    rw [hname name h]
    simpa using isName_longName.1.2.2
  refine ⟨hparts, hdirect, fun cwd => Disk.leadsToFolder_of_get? hdirect ?_ ?_ ?_⟩
  · exact ⟨hnul, by omega, by split at hsize <;> omega⟩
  · intro name h
    rw [hparts] at h
    rw [hname name h, isName_longName.2]
    decide
  · rw [hdirect.location_eq, hparts, get?_deepDisk, if_neg, if_pos (List.prefix_refl _)]
    simp

/-- A host whose working directory is the root. -/
def rootHost : Host where
  cwd := []
  homes := ⟨"/", []⟩

theorem size_joinText_deepPath {name : String} (hname : Path.IsPart name) {anchor : Path.Anchor}
    (hanchor : anchor ≠ .relative) :
    (Route.ofPath ((deepPath anchor).joinText name)).size
      = 3841 + name.utf8ByteSize + (if anchor = .doubleRoot then 1 else 0) := by
  obtain ⟨hparts, hdirect, -⟩ := deepPath_spec anchor hanchor
  obtain ⟨hjoin, hsame⟩ := Path.parts_joinText hname (deepPath anchor)
  have habsolute : ((deepPath anchor).joinText name).isAbsolute = true :=
    Path.isAbsolute_join hdirect.absolute
  have hkept : (deepPath anchor).anchor = anchor := rfl
  rw [Path.size_ofPath habsolute (by simp [hjoin]), hjoin, hsame, hkept, hparts,
    Location.weight_append, weight_deepFolder, Location.weight_cons, Location.weight_nil]
  omega

theorem location_deepPath : (deepPath .doubleRoot).location rootHost.cwd = deepFolder := by
  obtain ⟨hparts, hdirect, -⟩ := deepPath_spec .doubleRoot (by simp)
  exact hdirect.location_eq.trans hparts

theorem opens_deepDisk : deepDisk.Opens rootHost.cwd (deepPath .doubleRoot) deepFolder := by
  obtain ⟨-, hdirect, hleads⟩ := deepPath_spec .doubleRoot (by simp)
  exact location_deepPath ▸ (hleads _).opens linkFree_deepDisk hdirect

theorem freshName_ne_source : freshName ≠ "Token.cs" := by
  intro h
  have hlength := isName_freshName.2
  rw [h] at hlength
  exact absurd hlength (by decide)

theorem get?_freshName : deepDisk.get? (deepFolder ++ [freshName]) = none := by
  have hlong : ¬ deepFolder ++ [freshName] <+: deepFolder := fun h =>
    absurd h.length_le (by simp)
  rw [get?_deepDisk, if_neg hlong, if_neg (by simpa using freshName_ne_source)]

end Build

end ContractBuild
