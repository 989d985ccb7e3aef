import ContractBuild.Proofs.Path.Length
import ContractBuild.Proofs.Sources.Direct

/-!
# Going on from a directory

A walk that gets to a directory goes on from there, whatever links it followed on the way
(`follow_append`). So something in a directory is found by one more step, and a test of it fails
only where its name or its path is too long (`isFile_joinText`). Links elsewhere on the disk do not
matter: `Opens` says where a path leads, and `NoLinksBelow` that there are none from there on, as
where nothing but regular files and directories stand (`Plain`).
-/

namespace ContractBuild

/-- Whether a node is a regular file or a directory. -/
def Node.isPlain : Node → Bool
  | file _ | folder => true
  | _ => false

theorem Node.exists_file {n : Node} (h : n.isPlain = true) (hn : n ≠ folder) :
    ∃ content, n = file content := by
  cases n with
  | file content => exact ⟨content, rfl⟩
  | folder => exact absurd rfl hn
  | _ => simp [isPlain] at h

/-- A path that is not too long, with a last name that a directory can hold. -/
def Path.Fits (p : Path) : Prop :=
  (Route.ofPath p).size < Disk.maxPath ∧ p.name.utf8ByteSize ≤ Disk.maxName

instance (p : Path) : Decidable p.Fits := by
  unfold Path.Fits; infer_instance

theorem Path.name_joinText {name : String} (hname : IsPart name) (p : Path) :
    (p.joinText name).name = name := by
  simp [Path.name, (parts_joinText hname p).1]

namespace Disk

variable {d e : Disk} {cwd start l top : Location} {last : LastLink} {p directory : Path}
variable {xs : List String} {name : String} {n : Node}

/-! ## Walks over more steps -/

/-- What becomes of a walk over several steps when more follow. -/
theorem advance_append (d : Disk) (last : LastLink) (start : Location) (xs ys : List String) :
    match d.advance last start xs with
    | .arrived (.reached l) =>
      d.get? l = some .folder → d.advance last start (xs ++ ys) = d.advance last l ys
    | .arrived (.missing _ _) => True
    | .refused e => d.advance last start (xs ++ ys) = .refused e
    | .detour l target rest => d.advance last start (xs ++ ys) = .detour l target (rest ++ ys) := by
  induction xs generalizing start with
  | nil => exact fun _ => rfl
  | cons step rest ih =>
    rw [List.cons_append]
    by_cases hdot : step = "."
    · rw [advance, if_pos hdot, advance, if_pos hdot]
      exact ih start
    by_cases hup : step = ".."
    · rw [advance, if_neg hdot, if_pos hup, advance, if_neg hdot, if_pos hup]
      exact ih start.dropLast
    by_cases hstart : d.get? start = some .folder
    case neg => simp only [advance, if_neg hdot, if_neg hup, if_pos hstart]
    by_cases hlong : maxName < step.utf8ByteSize
    · simp only [advance, if_neg hdot, if_neg hup, hstart, if_pos hlong]
      simp
    have hstep : IsStep step := ⟨hup, Nat.le_of_not_lt hlong⟩
    rw [advance_cons hdot hstep hstart, advance_cons hdot hstep hstart]
    -- what ends the walk here is no directory, so that nothing is claimed of more steps
    cases hnext : d.get? (start ++ [step]) with
    | none => cases rest <;> simp
    | some n =>
      cases n with
      | folder => exact ih (start ++ [step])
      | file _ => cases rest <;> simp [hnext]
      | device _ => cases rest <;> simp [hnext]
      | link target => cases rest <;> cases last <;> simp [hnext]

theorem advance_append_of_reached (h : d.advance last start xs = .arrived (.reached l))
    (hl : d.get? l = some .folder) (ys : List String) :
    d.advance last start (xs ++ ys) = d.advance last l ys := by
  have happend := d.advance_append last start xs ys
  rw [h] at happend
  exact happend hl

/-- What refuses a walk refuses every walk that goes on from there. -/
theorem advance_append_of_refused {e : Errno} (h : d.advance last start xs = .refused e)
    (ys : List String) : d.advance last start (xs ++ ys) = .refused e := by
  have happend := d.advance_append last start xs ys
  rwa [h] at happend

theorem follow_of_advance_eq {ys : List String} (links : Nat)
    (h : d.advance last start xs = d.advance last l ys) :
    d.follow last links start xs = d.follow last links l ys := by
  rw [follow.eq_def, h, follow.eq_def d last links l ys]

/-- A walk that gets to a directory goes on from there, with some of the links left that it may
follow. -/
theorem follow_append {links : Nat} (h : d.follow .follow links start xs = .ok (.reached l))
    (hl : d.get? l = some .folder) (ys : List String) :
    ∃ left, d.follow .follow links start (xs ++ ys) = d.follow .follow left l ys := by
  refine follow_induction (motive := fun links start xs =>
    ∃ left, d.follow .follow links start (xs ++ ys) = d.follow .follow left l ys) h ?_ ?_
  · intro links start xs hadvance
    exact ⟨links, follow_of_advance_eq links (advance_append_of_reached hadvance hl ys)⟩
  · rintro links start xs at' target rest hadvance ⟨left, hleft⟩
    -- the detour leads to the directory, and what follows is walked after it
    have happend := d.advance_append .follow start xs ys
    rw [hadvance] at happend
    rw [List.append_assoc] at hleft
    exact ⟨left, (follow_of_detour happend).trans hleft⟩

/-! ## Walks on a disk with the same nodes -/

theorem advance_congr (h : ∀ k, e.get? k = d.get? k) (last : LastLink) (start : Location)
    (steps : List String) : e.advance last start steps = d.advance last start steps := by
  induction steps generalizing start with
  | nil => rfl
  | cons step rest ih => simp only [advance, h, ih]

theorem follow_congr (h : ∀ k, e.get? k = d.get? k) (last : LastLink) (links : Nat)
    (start : Location) (steps : List String) :
    e.follow last links start steps = d.follow last links start steps := by
  induction links generalizing last start steps with
  | zero => rw [follow.eq_def, follow.eq_def, advance_congr h]
  | succ links ih =>
    rw [follow.eq_def, follow.eq_def, advance_congr h]
    simp only [h, ih]

/-- Where a path leads depends on what stands where, not on the order in which the disk lists it. -/
theorem locate_congr (h : ∀ k, e.get? k = d.get? k) (cwd : Location) (r : Route) :
    e.locate cwd r = d.locate cwd r := by
  simp only [locate, walk, follow_congr h]

/-! ## Directories that a path opens -/

/-- The path leads to the directory at `top`. -/
structure Opens (d : Disk) (cwd : Location) (p : Path) (top : Location) : Prop where
  located : d.locate cwd (.ofPath p) = .ok top
  folder : d.get? top = some .folder

/-- No symbolic link stands below a location. -/
def NoLinksBelow (d : Disk) (top : Location) : Prop :=
  ∀ names target, d.get? (top ++ names) ≠ some (.link target)

theorem Opens.congr (h : d.Opens cwd p top) (he : ∀ k, e.get? k = d.get? k) :
    e.Opens cwd p top :=
  ⟨(locate_congr he cwd _).trans h.located, (he top).trans h.folder⟩

theorem LinkFree.noLinksBelow (hd : d.LinkFree) (top : Location) : d.NoLinksBelow top :=
  fun _ => hd _

/-! ## Directories with nothing but files and directories below -/

/-- Only regular files and directories stand below a location. -/
def Plain (d : Disk) (top : Location) : Prop :=
  ∀ names n, d.get? (top ++ names) = some n → n.isPlain = true

theorem plain_iff : d.Plain top ↔ ∀ e ∈ d.entries, top <+: e.1 → e.2.isPlain = true := by
  constructor
  · rintro h ⟨k, n⟩ he ⟨names, rfl⟩
    exact h names n ((get?_eq_some_iff (d.named _ he).1).2 he)
  · intro h names n hn
    by_cases hroot : top ++ names = []
    · obtain rfl : n = .folder := by simpa [hroot, eq_comm] using hn
      rfl
    · exact h _ ((get?_eq_some_iff hroot).1 hn) (List.prefix_append _ _)

instance (d : Disk) (top : Location) : Decidable (d.Plain top) := decidable_of_iff _ plain_iff.symm

theorem Plain.noLinksBelow (h : d.Plain top) : d.NoLinksBelow top := by
  intro names target hlink
  have hplain := h names _ hlink
  simp [Node.isPlain] at hplain

theorem Plain.congr (h : d.Plain top) (he : ∀ k, e.get? k = d.get? k) : e.Plain top :=
  fun names n hn => h names n ((he _).symm.trans hn)

theorem plain_empty (top : Location) : Disk.empty.Plain top := plain_iff.2 (by simp [empty])

theorem Plain.put (h : d.Plain top) (hn : n.isPlain = true) (l : Location) :
    (d.put l n).Plain top := by
  by_cases haccepts : d.Accepts l
  · intro names m hm
    rw [get?_put haccepts] at hm
    split at hm
    next => exact Option.some.inj hm ▸ hn
    next => exact h names m hm
  · rw [Disk.put, dif_neg haccepts]
    exact h

/-! ## What stands in a directory -/

theorem locate_eq_ok_iff :
    d.locate cwd (.ofPath p) = .ok l ↔
      p.Openable ∧ d.follow .follow maxLinks (p.origin cwd) p.parts = .ok (.reached l) := by
  rw [← walk_eq_ok_iff_follow, located_iff]

/-- A valid name brings no null character into a path. -/
theorem noNul_joinText (hp : directory.Openable) (hname : IsName name) :
    (Route.ofPath (directory.joinText name)).hasNul = false := by
  have hdirectory := hp.noNul
  simp only [Route.hasNul, Route.ofPath, (Path.parts_joinText hname.1 directory).1, List.any_append,
    Bool.or_eq_false_iff] at hdirectory ⊢
  exact ⟨hdirectory, by simpa using hname.2.2⟩

/-- A path to something in a directory can be opened unless it is too long. -/
theorem openable_joinText (hp : directory.Openable) (hname : IsName name)
    (hlong : (Route.ofPath (directory.joinText name)).size < maxPath) :
    (directory.joinText name).Openable :=
  ⟨noNul_joinText hp hname, Path.size_ne_zero _, hlong⟩

/-- The walk to something in a directory is one step from there. -/
theorem walk_joinText (h : d.Opens cwd directory top) (hname : IsName name)
    (hlong : (Route.ofPath (directory.joinText name)).size < maxPath) :
    ∃ links, d.walk .follow cwd (.ofPath (directory.joinText name))
      = (d.follow .follow links top [name]).mapError .errno := by
  obtain ⟨hopenable, hfollow⟩ := locate_eq_ok_iff.1 h.located
  obtain ⟨links, hlinks⟩ := follow_append hfollow h.folder [name]
  obtain ⟨hparts, hanchor⟩ := Path.parts_joinText hname.1 directory
  have horigin : (directory.joinText name).origin cwd = directory.origin cwd := by
    rw [Path.origin, Path.origin, Path.isAbsolute, Path.isAbsolute, hanchor]
  refine ⟨links, ?_⟩
  rw [walk_of_openable (openable_joinText hopenable hname hlong), horigin, hparts, hlinks]

/-- What stands in a directory is found unless a name or a path is too long. -/
theorem locate_joinText (h : d.Opens cwd directory top) (hn : d.get? (top ++ [name]) = some n)
    (hlink : ∀ target, n ≠ .link target) (hfits : (directory.joinText name).Fits) :
    d.locate cwd (.ofPath (directory.joinText name)) = .ok (top ++ [name]) := by
  have hname : IsName name := isName_of_get? hn name (by simp)
  have hsize := hfits.2
  rw [Path.name_joinText hname.1] at hsize
  obtain ⟨links, hwalk⟩ := walk_joinText h hname hfits.1
  have harrived : d.advance .follow top [name] = .arrived (.reached (top ++ [name])) := by
    rw [advance_cons hname.1.2.1 ⟨hname.2.1, hsize⟩ h.folder, hn]
    cases n with
    | link target => exact absurd rfl (hlink target)
    | _ => rfl
  rw [locate, hwalk, follow_of_arrived harrived, mapError_ok]

theorem locate_joinText_of_not_fits (h : d.Opens cwd directory top) (hname : IsName name)
    (hfits : ¬ (directory.joinText name).Fits) :
    d.locate cwd (.ofPath (directory.joinText name)) = .error (.errno .nameTooLong) := by
  by_cases hpath : (Route.ofPath (directory.joinText name)).size < maxPath
  · have hlong : maxName < name.utf8ByteSize := by
      rw [← Path.name_joinText hname.1 directory]
      exact Nat.lt_of_not_le fun hsize => hfits ⟨hpath, hsize⟩
    have hrefused : d.advance .follow top [name] = .refused .nameTooLong := by
      rw [advance, if_neg hname.1.2.1, if_neg hname.2.1, if_neg (not_not_intro h.folder),
        if_pos hlong]
    obtain ⟨links, hwalk⟩ := walk_joinText h hname hpath
    rw [locate, hwalk, follow_of_refused hrefused, mapError_error]
  · obtain ⟨hopenable, -⟩ := locate_eq_ok_iff.1 h.located
    rw [locate, walk, noNul_joinText hopenable hname, if_neg (by decide),
      if_neg (Path.size_ne_zero _), if_pos (Nat.le_of_not_lt hpath)]

/-- The test of what stands in a directory fails only where a name or the path is too long. -/
theorem isFile_joinText (h : d.Opens cwd directory top) (hlinks : d.NoLinksBelow top)
    (hn : d.get? (top ++ [name]) ≠ none) :
    d.isFile cwd (directory.joinText name) =
      if (directory.joinText name).Fits then .ok (d.file? (top ++ [name])).isSome
      else .error .nameTooLong := by
  obtain ⟨n, hn⟩ := Option.ne_none_iff_exists'.1 hn
  split
  next hfits =>
    have hlink : ∀ target, n ≠ .link target := fun target he => hlinks [name] target (he ▸ hn)
    have hlocate := locate_joinText h hn hlink hfits
    simp only [isFile, leadsTo, status, hlocate, Except.map, nodeAt, file?, hn]
    cases n <;> rfl
  next hfits =>
    have hlocate := locate_joinText_of_not_fits h (isName_of_get? hn name (by simp)) hfits
    simp only [isFile, leadsTo, status, hlocate, Except.map, Errno.meansAbsent, Bool.false_eq_true,
      if_false]

theorem list_eq_of_opens (h : d.Opens cwd directory top) :
    d.list cwd directory = .ok (d.namesIn top) := by
  simp only [list, h.located, nodeAt, h.folder, Option.getD_some, if_true]

end Disk

end ContractBuild
