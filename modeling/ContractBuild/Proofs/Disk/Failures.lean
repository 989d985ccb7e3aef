import ContractBuild.Proofs.Disk.Folders

/-!
# Why file operations fail

On any disk, with or without links: a test of a path fails for one reason only, that the path or one
of its components is too long (`leadsTo_eq_error_iff`); everything else that is in the way makes the
test answer no. The null character is what the operating system is never asked about: whoever writes
or creates something under a path with it fails before anything is looked at (`write_eq_nul_iff`,
`ensureFolders_eq_nul_iff`).
-/

namespace ContractBuild.Disk

variable {d e : Disk} {cwd : Location} {p : Path} {last : LastLink} {start : Location}
variable {steps : List String} {n : Errno}

/-! ## Tests -/

/-- The operating system finds the path, or a component of it, too long. -/
def TooLong (d : Disk) (cwd : Location) (p : Path) : Prop :=
  d.status cwd (.ofPath p) = .error (.errno .nameTooLong)

theorem refused_of_advance (h : d.advance last start steps = .refused n) :
    n.meansAbsent = true ∨ n = .nameTooLong := by
  induction steps generalizing start with
  | nil => simp [advance] at h
  | cons step rest ih =>
    unfold advance at h
    split at h
    next => exact ih h
    next =>
      split at h
      next => exact ih h
      next =>
        split at h
        next => exact Progress.refused.inj h ▸ .inl rfl
        next =>
          split at h
          next => exact Progress.refused.inj h ▸ .inr rfl
          next =>
            simp only at h
            split at h
            next =>
              split at h
              next => simp at h
              next => exact Progress.refused.inj h ▸ .inl rfl
            next => exact ih h
            next =>
              split at h
              next => simp at h
              next => simp at h
            all_goals
              split at h
              next => simp at h
              next => exact Progress.refused.inj h ▸ .inl rfl

/-- By induction on the links that may still be followed. -/
theorem refused_of_follow {links : Nat} (h : d.follow .follow links start steps = .error n) :
    n.meansAbsent = true ∨ n = .nameTooLong := by
  induction links generalizing start steps with
  | zero =>
    unfold follow at h
    split at h
    next => simp at h
    next hadvance => exact Except.error.inj h ▸ refused_of_advance hadvance
    next => exact Except.error.inj h ▸ .inl rfl
  | succ links ih =>
    unfold follow at h
    split at h
    next => simp at h
    next hadvance => exact Except.error.inj h ▸ refused_of_advance hadvance
    next =>
      -- a link is followed to where something is, never to where something is to be created
      exact ih (by simpa using h)

theorem refused_of_walk {r : Route} (h : d.walk .follow cwd r = .error (.errno n)) :
    n.meansAbsent = true ∨ n = .nameTooLong := by
  unfold walk at h
  split at h
  next => simp at h
  next =>
    split at h
    next =>
      obtain rfl : Errno.noEntry = n := by simpa using h
      exact .inl rfl
    next =>
      split at h
      next =>
        obtain rfl : Errno.nameTooLong = n := by simpa using h
        exact .inr rfl
      next =>
        split at h
        next => simp at h
        next hfollow =>
          obtain rfl := Fault.errno.inj (Except.error.inj h)
          exact refused_of_follow hfollow

theorem refused_of_status {r : Route} (h : d.status cwd r = .error (.errno n)) :
    n.meansAbsent = true ∨ n = .nameTooLong := by
  have hlocate := map_eq_error_iff.1 h
  unfold locate at hlocate
  split at hlocate
  next => simp at hlocate
  next =>
    obtain rfl := Fault.errno.inj (Except.error.inj hlocate)
    exact .inl rfl
  next fault hwalk =>
    obtain rfl := Except.error.inj hlocate
    exact refused_of_walk hwalk

/-- A test fails only because a path is too long. -/
theorem leadsTo_eq_error_iff (kind : Node → Bool) :
    d.leadsTo kind cwd p = .error n ↔ n = .nameTooLong ∧ d.TooLong cwd p := by
  unfold leadsTo
  constructor
  · intro h
    split at h
    next => simp at h
    next => simp at h
    next m hstatus =>
      split at h
      next => simp at h
      next hpresent =>
        obtain rfl := Except.error.inj h
        rcases refused_of_status hstatus with habsent | rfl
        · exact absurd habsent hpresent
        · exact ⟨rfl, hstatus⟩
  · rintro ⟨rfl, hlong⟩
    rw [hlong]
    rfl

/-! ## The null character -/

theorem walk_eq_nul_iff (d : Disk) (last : LastLink) (cwd : Location) :
    d.walk last cwd (.ofPath p) = .error .nul ↔ p.hasNul = true := by
  have hsame : (Route.ofPath p).hasNul = p.hasNul := rfl
  unfold walk
  rw [hsame]
  cases p.hasNul with
  | true => simp
  | false =>
    simp only [Bool.false_eq_true, if_false, iff_false]
    split
    next => simp
    next =>
      split
      next => simp
      next => split <;> simp

/-- Nothing is written under a path with the null character. -/
theorem write_eq_nul_iff (d : Disk) (cwd : Location) (content : Bytes) :
    d.write cwd p content = .error .nul ↔ p.hasNul = true := by
  rw [← walk_eq_nul_iff d .create cwd]
  unfold write
  cases d.walk .create cwd (.ofPath p) with
  | error fault => simp
  | ok a =>
    cases a with
    | missing parent name => simp
    | reached l =>
      simp only [reduceCtorEq, iff_false]
      split
      next => simp
      next => simp
      next => split <;> simp
      all_goals simp

theorem makeFolder_eq_nul_iff (d : Disk) (cwd : Location) :
    d.makeFolder cwd p = .error .nul ↔ p.hasNul = true := by
  rw [← walk_eq_nul_iff d .keep cwd]
  unfold makeFolder
  rcases d.walk .keep cwd (.ofPath p) with fault | l | ⟨parent, name⟩ <;> simp

theorem ensureFolder_eq_nul_iff (d : Disk) (cwd : Location) :
    d.ensureFolder cwd p = .error .nul ↔ p.hasNul = true := by
  rw [← makeFolder_eq_nul_iff d cwd]
  unfold ensureFolder
  split
  next hmade => simp [hmade]
  next hmade => simp [hmade]
  next hmade => simp [hmade]
  next hmade =>
    split <;> simp [hmade]

theorem hasNul_of_parent (h : p.parent.hasNul = true) : p.hasNul = true := by
  obtain ⟨part, hpart, hnul⟩ := List.any_eq_true.1 h
  exact List.any_eq_true.2 ⟨part, List.dropLast_subset _ hpart, hnul⟩

/-- No directory is created under a path with the null character. -/
theorem ensureFolders_eq_nul_iff (d : Disk) (cwd : Location) (p : Path) :
    (d.ensureFolders cwd p).1 = .error .nul ↔ p.hasNul = true := by
  have hmake : ∀ {q x}, d.makeFolder cwd q = x → (x = .error .nul ↔ q.hasNul = true) :=
    fun h => h ▸ makeFolder_eq_nul_iff d cwd
  have hensure : ∀ {e : Disk} {q x}, e.ensureFolder cwd q = x →
      (x = .error .nul ↔ q.hasNul = true) := fun h => h ▸ ensureFolder_eq_nul_iff _ cwd
  fun_induction ensureFolders d cwd p with
  | case1 p e hmade => simpa using hmake hmade
  | case2 p hmade => simpa using hmake hmade
  | case3 p hmade _ fault e hrest ih =>
    -- the path was walked, so there is no such character in it, nor in that of an ancestor
    have hnot := hmake hmade
    rw [hrest] at ih
    refine ⟨fun h => hasNul_of_parent (ih.1 h), fun h => ?_⟩
    simp [h] at hnot
  | case4 p hmade _ e hrest e' hlast ih => simpa using hmake hmade
  | case5 p hmade _ e hrest fault hlast ih => exact Iff.trans (by simp) (hensure hlast)
  | case6 p _ _ _ e hlast => exact Iff.trans (by simp) (hensure hlast)
  | case7 p _ _ _ fault hlast => exact Iff.trans (by simp) (hensure hlast)

end ContractBuild.Disk
