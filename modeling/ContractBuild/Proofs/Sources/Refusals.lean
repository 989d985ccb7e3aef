import ContractBuild.Proofs.Ends
import ContractBuild.Sources.Scan

/-!
# What resolving refuses

Whatever resolving refuses is a bad input, with a reason, or a directory without sources
(`ends_resolve`). Every other failure on the way is one of the system: a path that cannot be tested,
a home directory that is not known, a working directory that is gone.
-/

namespace ContractBuild

namespace Sources

variable {host : Host} {disk : Disk} {P : Refusal → Prop}

/-- The refusal of a bad input, with a reason. -/
def RefusesInput : Refusal → Prop
  | .input message _ => message ≠ ""
  | _ => False

/-- The refusals of resolving: a bad input, with a reason, or a directory without sources. -/
def Refuses : Refusal → Prop
  | .input message _ => message ≠ ""
  | .noSource _ => True
  | _ => False

theorem ends_isFile (p : Path) : Ends P (fun _ => True) (isFile host disk p) :=
  ends_mapError (by simp) _

theorem ends_isFolder (p : Path) : Ends P (fun _ => True) (isFolder host disk p) :=
  ends_mapError (by simp) _

theorem ends_absolute (p base : Path) : Ends P (fun _ => True) (host.absolute p base) := by
  apply ends_mapError
  intro e
  cases e <;> simp [Host.homeFailure]

theorem ends_base (cwd : Option String) : Ends P (fun _ => True) (host.base disk cwd) := by
  unfold Host.base
  split
  next e h =>
    unfold Host.directory at h
    split at h
    next => simp at h
    next =>
      obtain rfl := Except.error.inj h
      trivial
  next => trivial
  next => exact ends_absolute _ _

/-- Files are refused for their suffix or because they do not exist. -/
theorem ends_checkFiles (ps : List Path) :
    Ends RefusesInput (fun _ => True) (checkFiles host disk ps) := by
  have hne : ∀ (a b c : String), a ≠ "" → a ++ b ++ c ≠ "" := by
    intro a b c ha
    simp [ha]
  induction ps with
  | nil => trivial
  | cons p ps ih =>
    unfold checkFiles
    split
    next => exact hne _ _ _ (by decide)
    next =>
      refine (ends_isFile p).bind fun exists' _ => ?_
      cases exists' with
      | false => exact hne _ _ _ (by decide)
      | true => exact ih

theorem ends_single? (p : Path) : Ends RefusesInput (fun _ => True) (single? host disk p) := by
  refine (ends_isFolder p).bind fun folder _ => ?_
  cases folder with
  | true => trivial
  | false =>
    refine (ends_isFile p).bind fun file _ => ?_
    split <;> trivial

theorem ends_fileList (first : Path) (rest : List Path) :
    Ends RefusesInput (fun _ => True) (fileList host disk first rest) :=
  (ends_checkFiles _).bind fun _ _ => trivial

theorem ends_classifyAbsolute (base : Path) (ps : List Path) :
    Ends RefusesInput (fun _ => True) (classifyAbsolute host disk base ps) := by
  unfold classifyAbsolute
  split
  next => trivial
  next p =>
    refine (ends_single? p).bind fun found _ => ?_
    cases found with
    | some r => trivial
    | none => exact ends_fileList _ _
  next => exact ends_fileList _ _

theorem ends_classify (paths : List String) (cwd : Option String) :
    Ends RefusesInput (fun _ => True) (classify host disk paths cwd) :=
  (ends_base cwd).bind fun base _ =>
    (ends_mapM (fun s => ends_absolute (Path.ofText s) base) paths).bind fun ps _ =>
      ends_classifyAbsolute base ps

theorem ends_projectsIn (directory : Path) :
    Ends P (fun _ => True) (projectsIn host disk directory) := by
  have hlist : Ends P (fun _ => True)
      ((disk.list host.cwd directory).mapError Disk.Fault.toFailure) := by
    apply ends_mapError
    intro e
    cases e <;> simp [Disk.Fault.toFailure]
  exact hlist.bind fun names _ => (ends_filterM ends_isFile _).bind fun _ _ => trivial

theorem ends_scan (directory : Path) :
    Attempt.Ends Refuses (fun _ => True) (scan host disk directory) := by
  refine (Attempt.ends_ofExcept (ends_projectsIn directory)).bind fun ps _ => ?_
  cases ps with
  | nil =>
    simp only
    split
    next => exact Attempt.ends_refuse trivial _
    next => exact Attempt.ends_pure trivial
  | cons p ps =>
    simp only
    split
    next => exact (Attempt.ends_record _).bind fun _ _ => Attempt.ends_pure trivial
    next => exact Attempt.ends_pure trivial

/-- Whatever resolving refuses is a bad input or a directory without sources. -/
theorem ends_resolve (paths : List String) (cwd : Option String) :
    Attempt.Ends Refuses (fun _ => True) (resolve host disk paths cwd) := by
  have hclassify : Ends Refuses (fun _ => True) (classify host disk paths cwd) := by
    refine (ends_classify paths cwd).mono (fun x hx => ?_) fun _ h => h
    cases x with
    | input message path => exact hx
    | _ => exact absurd hx id
  refine (Attempt.ends_ofExcept hclassify).bind fun request _ => ?_
  cases request with
  | directory p =>
    exact (ends_scan p).bind fun _ _ => (Attempt.ends_record _).bind fun _ _ =>
      Attempt.ends_pure trivial
  | target t => exact (Attempt.ends_record _).bind fun _ _ => Attempt.ends_pure trivial

end Sources

end ContractBuild
