import ContractBuild.Proofs.Path.Suffix
import ContractBuild.Proofs.Sources.Failures

/-!
# The rules of classification

What input paths ask for, told by what they lead to and how they are named, links followed: nothing
asks for the base directory, one directory for itself, one project descriptor for the project, and
sources that exist for themselves. All other inputs are refused, for the first path that is no
source (`classify_exact`).
-/

namespace ContractBuild

namespace Disk

/-- A path leads to a directory. -/
def FolderAt (d : Disk) (cwd : Location) (p : Path) : Prop := d.status cwd (.ofPath p) = .ok .folder

/-- A path leads to a regular file. -/
def FileAt (d : Disk) (cwd : Location) (p : Path) : Prop :=
  ∃ content, d.status cwd (.ofPath p) = .ok (.file content)

variable {d : Disk} {cwd : Location} {p : Path}

theorem FileAt.not_folderAt (h : d.FileAt cwd p) : ¬ d.FolderAt cwd p := by
  obtain ⟨content, h⟩ := h
  simp [FolderAt, h]

theorem isFolder_iff : d.isFolder cwd p = .ok true ↔ d.FolderAt cwd p := by
  rw [isFolder, leadsTo_eq_true_iff]
  constructor
  · rintro ⟨n, hstatus, hkind⟩
    cases n with
    | folder => exact hstatus
    | _ => cases hkind
  · exact fun hfolder => ⟨.folder, hfolder, rfl⟩

theorem isFile_iff : d.isFile cwd p = .ok true ↔ d.FileAt cwd p := by
  rw [isFile, leadsTo_eq_true_iff]
  constructor
  · rintro ⟨n, hstatus, hkind⟩
    cases n with
    | file content => exact ⟨content, hstatus⟩
    | _ => cases hkind
  · rintro ⟨content, hfile⟩
    exact ⟨.file content, hfile, rfl⟩

end Disk

namespace Sources

variable {host : Host} {disk : Disk} {cwd : Location} {base p first : Path} {ps rest : List Path}

/-- A path with the suffix of project descriptors that leads to a file. -/
def ProjectAt (disk : Disk) (cwd : Location) (p : Path) : Prop :=
  disk.FileAt cwd p ∧ p.suffix.toLower = projectSuffix

/-- A path with the suffix of sources that leads to a file. -/
def SourceAt (disk : Disk) (cwd : Location) (p : Path) : Prop :=
  p.suffix.toLower = sourceSuffix ∧ disk.FileAt cwd p

theorem hasSuffix_source_iff : p.hasSuffix sourceSuffix = true ↔ p.suffix.toLower = sourceSuffix :=
  Path.hasSuffix_iff (by simp [sourceSuffix, Text.IsPlain]) p

theorem hasSuffix_project_iff :
    p.hasSuffix projectSuffix = true ↔ p.suffix.toLower = projectSuffix :=
  Path.hasSuffix_iff (by simp [projectSuffix, Text.IsPlain]) p

/-! ## Tests -/

/-- A test of a path that is not too long answers yes or no. -/
theorem leadsTo_eq_false {kind : Node → Bool} (hshort : ¬ disk.TooLong host.cwd p)
    (h : disk.leadsTo kind host.cwd p ≠ .ok true) :
    (disk.leadsTo kind host.cwd p).mapError Failure.system = .ok false := by
  rcases hx : disk.leadsTo kind host.cwd p with n | b
  · exact absurd ((Disk.leadsTo_eq_error_iff kind).1 hx).2 hshort
  · cases b
    · rfl
    · exact absurd hx h

theorem isFolder_eq_true (h : disk.FolderAt host.cwd p) : isFolder host disk p = .ok true :=
  mapError_eq_ok_iff.2 (Disk.isFolder_iff.2 h)

theorem isFolder_eq_false (hshort : ¬ disk.TooLong host.cwd p) (h : ¬ disk.FolderAt host.cwd p) :
    isFolder host disk p = .ok false :=
  leadsTo_eq_false hshort fun htest => h (Disk.isFolder_iff.1 htest)

theorem isFile_eq_true (h : disk.FileAt host.cwd p) : isFile host disk p = .ok true :=
  mapError_eq_ok_iff.2 (Disk.isFile_iff.2 h)

theorem isFile_eq_false (hshort : ¬ disk.TooLong host.cwd p) (h : ¬ disk.FileAt host.cwd p) :
    isFile host disk p = .ok false :=
  leadsTo_eq_false hshort fun htest => h (Disk.isFile_iff.1 htest)

/-! ## Lists of sources -/

theorem sourceAt_iff :
    SourceAt disk host.cwd p ↔ p.hasSuffix sourceSuffix = true ∧ isFile host disk p = .ok true := by
  rw [SourceAt, hasSuffix_source_iff, isFile, mapError_eq_ok_iff, Disk.isFile_iff]

theorem fileList_eq_ok_iff {r : Request} :
    fileList host disk first rest = .ok r ↔ (∀ p ∈ first :: rest, SourceAt disk host.cwd p)
      ∧ r = .target (.sources ⟨first :: rest, List.cons_ne_nil _ _, first.parent⟩) := by
  have hall : checkFiles host disk (first :: rest) = .ok () ↔
      ∀ p ∈ first :: rest, SourceAt disk host.cwd p := by
    simp only [checkFiles_eq_ok_iff, sourceAt_iff]
  unfold fileList
  rw [bind_eq_ok_iff, ← hall]
  constructor
  · rintro ⟨_, hfiles, hr⟩
    exact ⟨hfiles, (Except.ok.inj hr).symm⟩
  · rintro ⟨hfiles, rfl⟩
    exact ⟨(), hfiles, rfl⟩

/-! ## Classification -/

/-- Inputs that are no list of sources: nothing at all, or one path that is a directory or a project
descriptor. -/
def Alone (disk : Disk) (cwd : Location) (ps : List Path) : Prop :=
  ps = [] ∨ ∃ p, ps = [p] ∧ (disk.FolderAt cwd p ∨ ProjectAt disk cwd p)

theorem classifyAbsolute_list (hshort : ∀ p ∈ first :: rest, ¬ disk.TooLong host.cwd p)
    (h : ¬ Alone disk host.cwd (first :: rest)) :
    classifyAbsolute host disk base (first :: rest) = fileList host disk first rest := by
  cases rest with
  | cons second rest => rfl
  | nil =>
    have hp := hshort first (List.mem_cons_self ..)
    have hfolder : ¬ disk.FolderAt host.cwd first := fun hf => h (.inr ⟨first, rfl, .inl hf⟩)
    have hproject : ¬ ProjectAt disk host.cwd first := fun hf => h (.inr ⟨first, rfl, .inr hf⟩)
    have hsingle : single? host disk first = .ok none := by
      rw [single?_eq, isFolder_eq_false hp hfolder]
      by_cases hfile : disk.FileAt host.cwd first
      · have hsuffix : ¬ first.hasSuffix projectSuffix = true :=
          fun hs => hproject ⟨hfile, hasSuffix_project_iff.1 hs⟩
        rw [isFile_eq_true hfile]
        simp [hsuffix]
      · rw [isFile_eq_false hp hfile]
        rfl
    rw [classifyAbsolute, hsingle]
    rfl

theorem not_alone_of_sources (h : ∀ p ∈ first :: rest, SourceAt disk cwd p) :
    ¬ Alone disk cwd (first :: rest) := by
  rintro (hnil | ⟨p, hp, halone⟩)
  · cases hnil
  · obtain ⟨rfl, -⟩ := List.cons.inj hp
    obtain ⟨hsuffix, hfile⟩ := h first (List.mem_cons_self ..)
    rcases halone with hfolder | hproject
    · exact hfile.not_folderAt hfolder
    · exact absurd (hsuffix.symm.trans hproject.2) (by decide)

/-- Only a list of sources asks for source files. -/
theorem sources_of_classifyAbsolute {s : SourceFiles}
    (h : classifyAbsolute host disk base ps = .ok (.target (.sources s))) :
    s.files = ps ∧ (∀ p ∈ ps, SourceAt disk host.cwd p)
      ∧ ∃ first rest, ps = first :: rest ∧ s.folder = first.parent := by
  have hlist : ∀ first rest, fileList host disk first rest = .ok (.target (.sources s)) →
      s.files = first :: rest ∧ (∀ p ∈ first :: rest, SourceAt disk host.cwd p)
        ∧ s.folder = first.parent := by
    intro first rest h
    obtain ⟨hall, hs⟩ := fileList_eq_ok_iff.1 h
    obtain rfl := Target.sources.inj (Request.target.inj hs)
    exact ⟨rfl, hall, rfl⟩
  unfold classifyAbsolute at h
  split at h
  next => cases h
  next p =>
    obtain ⟨found, hsingle, h⟩ := bind_eq_ok_iff.1 h
    cases found with
    | some r =>
      obtain rfl := Except.ok.inj h
      rw [single?_eq] at hsingle
      split at hsingle
      next => cases hsingle
      next => cases hsingle
      next =>
        split at hsingle
        next => cases hsingle
        next => split at hsingle <;> cases hsingle
    | none =>
      obtain ⟨hfiles, hall, hfolder⟩ := hlist p [] h
      exact ⟨hfiles, hall, p, [], rfl, hfolder⟩
  next p ps _ =>
    obtain ⟨hfiles, hall, hfolder⟩ := hlist p ps h
    exact ⟨hfiles, hall, p, ps, rfl, hfolder⟩

section

variable (hshort : ∀ p ∈ ps, ¬ disk.TooLong host.cwd p)

include hshort

theorem classifyAbsolute_eq_sources_iff {s : SourceFiles} :
    classifyAbsolute host disk base ps = .ok (.target (.sources s)) ↔
      s.files = ps ∧ (∀ p ∈ ps, SourceAt disk host.cwd p)
        ∧ ∃ first rest, ps = first :: rest ∧ s.folder = first.parent := by
  refine ⟨sources_of_classifyAbsolute, ?_⟩
  rintro ⟨hfiles, hall, first, rest, rfl, hfolder⟩
  obtain ⟨files, hne, folder⟩ := s
  obtain rfl : files = first :: rest := hfiles
  obtain rfl : folder = first.parent := hfolder
  rw [classifyAbsolute_list hshort (not_alone_of_sources hall), fileList_eq_ok_iff]
  exact ⟨hall, rfl⟩

end

variable {paths : List String} {given : Option String}

/-- Inputs ask for what their absolute forms ask for. -/
theorem classify_eq (hbase : host.base disk given = .ok base)
    (hps : paths.mapM (fun s => host.absolute (.ofText s) base) = .ok ps) :
    classify host disk paths given = classifyAbsolute host disk base ps := by
  calc classify host disk paths given
    _ = paths.mapM (fun s => host.absolute (.ofText s) base)
        >>= classifyAbsolute host disk base := by
      rw [classify, hbase]
      rfl
    _ = classifyAbsolute host disk base ps := by
      rw [hps]
      rfl

end Sources

end ContractBuild
