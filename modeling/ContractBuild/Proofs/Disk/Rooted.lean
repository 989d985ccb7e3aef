import ContractBuild.Disk.Access

/-!
# Absolute paths and the working directory

A walk along an absolute path starts at the root, so it does not depend on the working directory
(`walk_rooted`), and neither does any operation on such a path. Names that are found below it and
ancestors that are created above it are reached by absolute paths again.
-/

namespace ContractBuild.Disk

variable {d : Disk} {p : Path} {r : Route}

theorem walk_rooted (h : r.rooted = true) (d : Disk) (last : LastLink) (l k : Location) :
    d.walk last l r = d.walk last k r := by
  simp only [walk, h, if_true]

theorem locate_rooted (h : r.rooted = true) (d : Disk) (l k : Location) :
    d.locate l r = d.locate k r := by
  rw [locate, walk_rooted h d .follow l k, locate]

theorem status_rooted (h : r.rooted = true) (d : Disk) (l k : Location) :
    d.status l r = d.status k r := by
  rw [status, locate_rooted h d l k, status]

theorem leadsTo_absolute (h : p.isAbsolute = true) (d : Disk) (kind : Node → Bool)
    (l k : Location) : d.leadsTo kind l p = d.leadsTo kind k p := by
  rw [leadsTo, status_rooted (r := .ofPath p) h d l k, leadsTo]

theorem isFolder_absolute (h : p.isAbsolute = true) (d : Disk) (l k : Location) :
    d.isFolder l p = d.isFolder k p := leadsTo_absolute h d _ l k

theorem isFile_absolute (h : p.isAbsolute = true) (d : Disk) (l k : Location) :
    d.isFile l p = d.isFile k p := leadsTo_absolute h d _ l k

theorem list_absolute (h : p.isAbsolute = true) (d : Disk) (l k : Location) :
    d.list l p = d.list k p := by
  rw [list, locate_rooted (r := .ofPath p) h d l k, list]

theorem makeFolder_absolute (h : p.isAbsolute = true) (d : Disk) (l k : Location) :
    d.makeFolder l p = d.makeFolder k p := by
  rw [makeFolder, walk_rooted (r := .ofPath p) h d .keep l k, makeFolder]

theorem ensureFolder_absolute (h : p.isAbsolute = true) (d : Disk) (l k : Location) :
    d.ensureFolder l p = d.ensureFolder k p := by
  rw [ensureFolder, makeFolder_absolute h d l k, isFolder_absolute h d l k, ensureFolder]

theorem write_absolute (h : p.isAbsolute = true) (d : Disk) (content : Bytes) (l k : Location) :
    d.write l p content = d.write k p content := by
  rw [write, walk_rooted (r := .ofPath p) h d .create l k, write]

theorem unlink_absolute (h : p.isAbsolute = true) (d : Disk) (l k : Location) :
    d.unlink l p = d.unlink k p := by
  rw [unlink, walk_rooted (r := .ofPath p) h d .keep l k, unlink]

theorem ensureFolders_absolute {p : Path} (h : p.isAbsolute = true) (d : Disk) (l k : Location) :
    d.ensureFolders l p = d.ensureFolders k p := by
  have hmake := makeFolder_absolute h d l k
  have hensure := fun d => ensureFolder_absolute h d l k
  -- Each call makes the parent first, so the recursion is on the parts; a parent is absolute again.
  rw [ensureFolders.eq_def d l p, ensureFolders.eq_def d k p]
  by_cases hparts : p.parts = []
  · simp only [hmake, hensure, dif_pos hparts]
  · have habove : p.parent.isAbsolute = true := h
    have hparent : d.ensureFolders l p.parent = d.ensureFolders k p.parent :=
      ensureFolders_absolute habove d l k
    simp only [hmake, hensure, dif_neg hparts, hparent]
  termination_by p.parts.length
  decreasing_by
    have hpos := List.length_pos_iff.2 hparts
    simp only [Path.parent, List.length_dropLast]
    omega

theorem countsAsFile_rooted (h : r.rooted = true) (d : Disk) (l k : Location) :
    d.countsAsFile l r = d.countsAsFile k r := by
  funext n
  cases n with
  | link target => rw [countsAsFile, status_rooted h d l k, countsAsFile]
  | _ => rfl

theorem filesBelow_rooted (h : r.rooted = true) (d : Disk) (skipped : List String)
    (top l k : Location) : d.filesBelow l skipped top r = d.filesBelow k skipped top r := by
  induction skipped, top, r using filesBelow.induct d l with
  | case1 skipped top r hlong =>
    rw [filesBelow, if_pos hlong, filesBelow, if_pos hlong]
  | case2 skipped top r hfits ih =>
    have hcounts (name : String) :
        d.countsAsFile l (r.below name) = d.countsAsFile k (r.below name) :=
      countsAsFile_rooted (r := r.below name) h d l k
    -- A route below a rooted one is rooted, whatever its length.
    have hbelow (name : String) : d.filesBelow l [] (top ++ [name]) (r.below name)
        = d.filesBelow k [] (top ++ [name]) (r.below name) := ih name h
    rw [filesBelow.eq_def d l, filesBelow.eq_def d k, if_neg hfits, if_neg hfits]
    simp only [hcounts, hbelow]

end ContractBuild.Disk
