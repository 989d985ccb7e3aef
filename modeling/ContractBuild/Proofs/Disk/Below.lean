import ContractBuild.Proofs.Disk.Failures
import ContractBuild.Proofs.Disk.Opens

/-!
# Paths to what stands below a directory

Whatever a path leads to, its own length and that of each of its names are within the bounds of the
operating system (`passable_of_locate`), links on the way or not. Below a directory without links
these bounds are all that matters: a path from there leads to what stands at its place, or else it
is too long (`status_below`).
-/

namespace ContractBuild

namespace Disk

variable {d : Disk} {cwd start l top : Location} {last : LastLink} {p directory : Path}
variable {xs names : List String} {a : Arrival} {n : Node}

/-! ## What a walk has passed -/

/-- Names that a directory can hold. -/
def AllShort (names : List String) : Prop := ∀ name ∈ names, name.utf8ByteSize ≤ maxName

instance (names : List String) : Decidable (AllShort names) := by
  unfold AllShort; infer_instance

/-- What is known of the steps of a walk once it has got somewhere: those that it passed are short,
and a link that it met stands in a directory. -/
def Progress.Passes (d : Disk) (xs : List String) : Progress → Prop
  | arrived _ => AllShort xs
  | refused _ => True
  | detour place _ rest =>
    d.get? place = some .folder ∧ ∃ before, xs = before ++ rest ∧ AllShort before

theorem Progress.Passes.cons {progress : Progress} (h : progress.Passes d xs) {step : String}
    (hstep : step.utf8ByteSize ≤ maxName) : progress.Passes d (step :: xs) := by
  cases progress with
  | arrived a => exact List.forall_mem_cons.2 ⟨hstep, h⟩
  | refused e => trivial
  | detour place target rest =>
    obtain ⟨hplace, before, rfl, hbefore⟩ := h
    exact ⟨hplace, step :: before, rfl, List.forall_mem_cons.2 ⟨hstep, hbefore⟩⟩

theorem passes_advance (d : Disk) (last : LastLink) (start : Location) (xs : List String) :
    (d.advance last start xs).Passes d xs := by
  induction xs generalizing start with
  | nil => simp [advance, Progress.Passes, AllShort]
  | cons step xs ih =>
    by_cases hdot : step = "."
    · rw [advance, if_pos hdot]
      exact (ih start).cons (hdot ▸ by decide)
    by_cases hup : step = ".."
    · rw [advance, if_neg hdot, if_pos hup]
      exact (ih start.dropLast).cons (hup ▸ by decide)
    by_cases hstart : d.get? start = some .folder
    case neg => simp [advance, hdot, hup, hstart, Progress.Passes]
    by_cases hlong : maxName < step.utf8ByteSize
    · simp [advance, hdot, hup, hstart, hlong, Progress.Passes]
    have hstep : step.utf8ByteSize ≤ maxName := Nat.le_of_not_lt hlong
    -- whatever ends the walk here, the step was short
    have hend : ∀ {a e},
        (if xs.isEmpty then Progress.arrived a else .refused e).Passes d (step :: xs) := by
      intro a e
      cases xs with
      | nil => simpa [Progress.Passes, AllShort] using hstep
      | cons next xs => trivial
    rw [advance_cons hdot ⟨hup, hstep⟩ hstart]
    split
    next => exact hend
    next => exact (ih _).cons hstep
    next target _ =>
      split
      next hlast =>
        obtain ⟨hrest, -⟩ := Bool.and_eq_true_iff.1 hlast
        obtain rfl := List.isEmpty_iff.1 hrest
        simpa [Progress.Passes, AllShort] using hstep
      next => exact ⟨hstart, [step], rfl, by simpa [AllShort] using hstep⟩
    next => exact hend
    next => exact hend

/-- By induction on the links that are followed. -/
theorem short_of_follow {links : Nat} (h : d.follow last links start xs = .ok a) : AllShort xs := by
  refine follow_induction (motive := fun _ _ xs => AllShort xs) h ?_ ?_
  · intro links start xs hadvance
    have hpasses := passes_advance d last start xs
    rwa [hadvance] at hpasses
  · intro links start xs place target rest hadvance hrest
    have hpasses := passes_advance d last start xs
    rw [hadvance] at hpasses
    obtain ⟨-, before, rfl, hbefore⟩ := hpasses
    exact List.forall_mem_append.2 ⟨hbefore, (List.forall_mem_append.1 hrest).2⟩

/-- Where a walk starts at something, it arrives at something. -/
theorem exists_of_follow {links : Nat} (h : d.follow last links start xs = .ok (.reached l))
    (hstart : d.get? start ≠ none) : d.get? l ≠ none := by
  revert hstart
  refine follow_induction (motive := fun _ start _ => d.get? start ≠ none → d.get? l ≠ none) h ?_ ?_
  · intro links start xs hadvance
    exact (leads_filter_of_advance hadvance).exists_of_reached
  · intro links start xs place target rest hadvance hrest _
    have hpasses := passes_advance d last start xs
    rw [hadvance] at hpasses
    refine hrest ?_
    split
    next => simp
    next => simp [hpasses.1]

/-- A path that is not too long, with names that directories can hold. -/
def Passable (p : Path) : Prop := (Route.ofPath p).size < maxPath ∧ AllShort p.parts

instance (p : Path) : Decidable (Passable p) := by
  unfold Passable; infer_instance

theorem passable_of_locate (h : d.locate cwd (.ofPath p) = .ok l) : Passable p := by
  obtain ⟨hopenable, hfollow⟩ := locate_eq_ok_iff.1 h
  exact ⟨hopenable.notLong, short_of_follow hfollow⟩

/-- A directory that is listed under an absolute path is opened. -/
theorem opens_of_list {listed : List String} (hp : p.isAbsolute = true)
    (h : d.list cwd p = .ok listed) : ∃ top, d.Opens cwd p top := by
  unfold list at h
  cases hlocate : d.locate cwd (.ofPath p) with
  | error fault => simp [hlocate] at h
  | ok top =>
    obtain ⟨-, hfollow⟩ := locate_eq_ok_iff.1 hlocate
    rw [Path.origin, if_pos hp] at hfollow
    obtain ⟨n, hn⟩ := Option.ne_none_iff_exists'.1 (exists_of_follow hfollow (by simp))
    have hfolder : d.nodeAt top = .folder := by
      refine Decidable.byContradiction fun hother => ?_
      simp [hlocate, hother] at h
    rw [nodeAt, hn] at hfolder
    exact ⟨top, hlocate, hn.trans (congrArg some hfolder)⟩

/-! ## Below a directory without links -/

/-- Names lead from a directory to what stands there, unless one of them is too long. -/
theorem advance_below (hlinks : d.NoLinksBelow top) (hn : d.get? (top ++ names) = some n) :
    d.advance .follow top names =
      if AllShort names then .arrived (.reached (top ++ names)) else .refused .nameTooLong := by
  induction names generalizing top with
  | nil => simp [advance, AllShort]
  | cons name names ih =>
    have hname : IsName name := isName_of_get? hn name (by simp)
    have htop : d.get? top = some .folder := get?_of_above hn (List.prefix_append ..) (by simp)
    by_cases hlong : maxName < name.utf8ByteSize
    · have hfails : ¬ AllShort (name :: names) := fun hall =>
        absurd (hall name (List.mem_cons_self ..)) (Nat.not_le.2 hlong)
      rw [advance, if_neg hname.1.2.1, if_neg hname.2.1, if_neg (not_not_intro htop), if_pos hlong,
        if_neg hfails]
    have hshort : name.utf8ByteSize ≤ maxName := Nat.le_of_not_lt hlong
    have hall : AllShort (name :: names) ↔ AllShort names := by simp [AllShort, hshort]
    rw [List.append_cons top name names] at hn ⊢
    rw [advance_cons hname.1.2.1 ⟨hname.2.1, hshort⟩ htop]
    simp only [hall]
    cases names with
    | nil =>
      rw [List.append_nil] at hn ⊢
      rw [hn]
      cases n with
      | link target => exact absurd hn (hlinks [name] target)
      | _ => simp [advance, AllShort]
    | cons next names =>
      have hnext : d.get? (top ++ [name]) = some .folder :=
        get?_of_above hn (List.prefix_append ..) (by simp)
      have hbelow : d.NoLinksBelow (top ++ [name]) := fun more target => by
        rw [List.append_assoc]
        exact hlinks _ target
      rw [hnext]
      exact ih hbelow hn

theorem isPart_of_get?_append (hn : d.get? (top ++ names) = some n) :
    ∀ name ∈ names, Path.IsPart name := fun name hname =>
  (isName_of_get? hn name (List.mem_append_right _ hname)).1

section

variable (h : d.Opens cwd directory top) (hn : d.get? (top ++ names) = some n)
  (hp : p = directory.join (.ofComponents .relative names))

include h hn hp

theorem noNul_below : (Route.ofPath p).hasNul = false := by
  have hdirectory := (locate_eq_ok_iff.1 h.located).1.noNul
  have hparts := (Path.parts_join_ofComponents (isPart_of_get?_append hn) directory).1
  have hnames : ∀ name ∈ names, '\x00' ∉ name.toList := fun name hname =>
    (isName_of_get? hn name (List.mem_append_right _ hname)).2.2
  rw [← hp] at hparts
  simp only [Route.hasNul, Route.ofPath, hparts, List.any_append, Bool.or_eq_false_iff]
    at hdirectory ⊢
  exact ⟨hdirectory, by simpa using hnames⟩

/-- The walk of a path that is not too long goes on from the directory. -/
theorem walk_below (hsize : (Route.ofPath p).size < maxPath) :
    ∃ links, d.walk .follow cwd (.ofPath p)
      = (d.follow .follow links top names).mapError .errno := by
  obtain ⟨-, hfollow⟩ := locate_eq_ok_iff.1 h.located
  obtain ⟨links, hlinks⟩ := follow_append hfollow h.folder names
  obtain ⟨hparts, hanchor⟩ := Path.parts_join_ofComponents (isPart_of_get?_append hn) directory
  rw [← hp] at hparts hanchor
  have horigin : p.origin cwd = directory.origin cwd := by
    rw [Path.origin, Path.origin, Path.isAbsolute, Path.isAbsolute, hanchor]
  have hopenable : p.Openable := ⟨noNul_below h hn hp, Path.size_ne_zero _, hsize⟩
  exact ⟨links, by rw [walk_of_openable hopenable, horigin, hparts, hlinks]⟩

/-- The path leads to what stands at its place, unless it is too long. -/
theorem status_below (hlinks : d.NoLinksBelow top) :
    d.status cwd (.ofPath p) =
      if Passable p then .ok n else .error (.errno .nameTooLong) := by
  have hparts := (Path.parts_join_ofComponents (isPart_of_get?_append hn) directory).1
  rw [← hp] at hparts
  have hpassable : Passable p ↔ (Route.ofPath p).size < maxPath ∧ AllShort names := by
    rw [Passable, hparts, AllShort, List.forall_mem_append]
    exact and_congr_right fun _ => and_iff_right (passable_of_locate h.located).2
  rw [status, locate]
  simp only [hpassable]
  by_cases hsize : (Route.ofPath p).size < maxPath
  · obtain ⟨links, hwalk⟩ := walk_below h hn hp hsize
    have hadvance := advance_below hlinks hn
    by_cases hshort : AllShort names
    · rw [if_pos hshort] at hadvance
      rw [hwalk, follow_of_arrived hadvance, if_pos ⟨hsize, hshort⟩]
      simp [Except.map, nodeAt, hn]
    · rw [if_neg hshort] at hadvance
      rw [hwalk, follow_of_refused hadvance, if_neg fun hboth => hshort hboth.2]
      rfl
  · rw [walk, noNul_below h hn hp, if_neg (by decide), if_neg (Path.size_ne_zero _),
      if_pos (Nat.le_of_not_lt hsize), if_neg fun hboth => hsize hboth.1]
    rfl

end

end Disk

end ContractBuild
