import ContractBuild.Proofs.Build.Loaded
import ContractBuild.Proofs.Engine.Wording

/-!
# Details stay in the log

Where an error of an engine, of a module or of the operating system becomes a refusal, its text goes
to the log, and the user is told a message of the build's own. So two builds that meet errors of the
same classes in the same places come to the same, whatever the texts of the errors are: the same
outcome, the same lines, the same disk and the same calls (`details_stay_in_log`).
-/

namespace ContractBuild

/-- The host with an operating system that describes its refusals in other words. -/
def Host.describing (host : Host) (describe : Errno → String) : Host := { host with describe }

/-! ## Resolving the inputs -/

namespace Sources

variable (host : Host) (describe : Errno → String) (disk : Disk)

theorem checkFiles_describing (ps : List Path) :
    checkFiles (host.describing describe) disk ps = checkFiles host disk ps := by
  induction ps with
  | nil => rfl
  | cons p ps ih =>
    rw [checkFiles, checkFiles, ih]
    rfl

theorem classifyAbsolute_describing (base : Path) (ps : List Path) :
    classifyAbsolute (host.describing describe) disk base ps
      = classifyAbsolute host disk base ps := by
  have hlist (p : Path) (ps : List Path) :
      fileList (host.describing describe) disk p ps = fileList host disk p ps := by
    rw [fileList, fileList, checkFiles_describing]
  match ps with
  | [] => rfl
  | [p] =>
    rw [classifyAbsolute, classifyAbsolute, hlist]
    rfl
  | p :: q :: ps => exact hlist p (q :: ps)

theorem classify_describing (paths : List String) (cwd : Option String) :
    classify (host.describing describe) disk paths cwd = classify host disk paths cwd := by
  simp only [classify, classifyAbsolute_describing]
  rfl

theorem scan_describing (directory : Path) :
    scan (host.describing describe) disk directory = scan host disk directory := by
  have hprojects : projectsIn (host.describing describe) disk directory
      = projectsIn host disk directory := rfl
  have hsources : sourcesBelow (host.describing describe) disk directory
      = sourcesBelow host disk directory := rfl
  rw [scan, scan, hprojects, hsources]

/-- The words of the operating system play no part in what inputs resolve to. -/
theorem resolve_describing (paths : List String) (cwd : Option String) :
    resolve (host.describing describe) disk paths cwd = resolve host disk paths cwd := by
  simp only [resolve, classify_describing, scan_describing]

end Sources

/-! ## Writing the artifacts -/

namespace Artifact

open Running (Matches)

variable (host : Host) (describe : Errno → String) (r : Compiled)

theorem matches_prepareFolder (folder : Path) :
    Matches (prepareFolder host folder) (prepareFolder (host.describing describe) folder) := by
  intro s u hsu
  have hcwd : (host.describing describe).cwd = host.cwd := rfl
  rw [runFrom_prepareFolder, runFrom_prepareFolder, ← hsu.disk, hcwd]
  rcases s.disk.ensureFolders host.cwd folder with ⟨fault | ⟨⟩, d⟩
  · cases fault with
    | nul => exact ⟨rfl, rfl, hsu.lines, hsu.trail⟩
    | errno n => exact ⟨rfl, rfl, hsu.lines, hsu.trail.noted _ _ _⟩
  · exact ⟨rfl, rfl, hsu.lines, hsu.trail⟩

/-- An artifact that cannot be written is told by its path alone. -/
theorem matches_writeOne (l : Layout) (a : Artifact) :
    Matches (writeOne host r l a) (writeOne (host.describing describe) r l a) := by
  intro s u hsu
  have hcwd : (host.describing describe).cwd = host.cwd := rfl
  have hcalled : (called s a).trail.SameButLog (called u a).trail :=
    ⟨hsu.trail.made, hsu.trail.calls, congrArg (· ++ [a]) hsu.trail.produced⟩
  rw [runFrom_writeOne, runFrom_writeOne, ← hsu.disk, hcwd]
  cases r.produce a with
  | error f => exact ⟨rfl, hsu.disk, hsu.lines, hcalled⟩
  | ok d =>
    simp only
    cases content l a d with
    | error f => exact ⟨rfl, hsu.disk, hsu.lines, hcalled⟩
    | ok c =>
      simp only
      have hcutoff : (host.describing describe).cutoff? = host.cutoff? := rfl
      rw [hcutoff]
      rcases store s.disk host.cwd (l.path a) c (host.cutoff? (l.path a) c.bytes) with
        ⟨f | ⟨⟩, e⟩
      · cases f with
        | system n =>
          have hlogged : Trail.SameButLog
              (refusedTrail host l a n (called s a).trail)
              (refusedTrail (host.describing describe) l a n (called u a).trail) := by
            unfold refusedTrail
            refine Trail.SameButLog.noted ?_ _ _ _
            exact ⟨hcalled.made, hcalled.calls, hcalled.produced⟩
          exact ⟨rfl, rfl, hsu.lines, hlogged⟩
        | _ => exact ⟨rfl, rfl, hsu.lines, hcalled⟩
      · exact ⟨rfl, rfl, congrArg (· ++ [createdLine l a]) hsu.lines, hcalled⟩

theorem matches_writeAll (l : Layout) (as : List Artifact) :
    Matches (writeAll host r l as) (writeAll (host.describing describe) r l as) := by
  induction as with
  | nil => exact fun _ _ hsu => ⟨rfl, hsu⟩
  | cons a as ih =>
    exact (matches_writeOne host describe r l a).bind fun _ => ih.bind fun _ _ _ hsu => ⟨rfl, hsu⟩

theorem matches_write (options : Options) (fallback : Path) (name : Value) :
    Matches (write host r options fallback name)
      (write (host.describing describe) r options fallback name) := by
  unfold write
  split
  next => exact fun _ _ hsu => ⟨rfl, hsu⟩
  next =>
    split
    next => exact fun _ _ hsu => ⟨rfl, hsu⟩
    next =>
      refine (matches_prepareFolder host describe _).bind fun _ => ?_
      split
      next => exact fun _ _ hsu => ⟨rfl, hsu⟩
      next l _ =>
        refine (matches_writeAll host describe r l _).bind fun files s u hsu => ⟨rfl, ?_⟩
        simp only [Running.runFrom_bind, Running.runFrom_writeLine, Running.runFrom_record,
          Running.runFrom_pure]
        exact ⟨hsu.disk, congrArg (· ++ [⟨.out, completedLine⟩]) hsu.lines, hsu.trail.made,
          hsu.trail.calls, hsu.trail.produced⟩

end Artifact

/-! ## The whole build -/

namespace Build

variable {registry registry' : Engine.Registry} {job : Job} {source : Engine.Source}

theorem matches_compile (host : Host) (describe : Errno → String)
    (hregistry : registry.Reworded registry') (hengine : job.engine.Reworded source)
    (disk : Disk) :
    Attempt.Matches Eq (compile host registry disk job)
      (compile (host.describing describe) registry' disk { job with engine := source }) := by
  unfold compile
  rw [Sources.resolve_describing]
  refine (Sources.silent_resolve host disk job.paths job.cwd).matches_self.bind ?_
  rintro target _ rfl
  refine (Engine.matches_ofSource hregistry hengine).bind fun e e' he => ?_
  refine (Compilation.matches_run he target job.options).bind ?_
  rintro r _ rfl
  exact Attempt.matches_pure rfl

theorem matches_deliver (host : Host) (describe : Errno → String) (job : Job)
    (source : Engine.Source) (target : Target) (r : Compiled) :
    Running.Matches (deliver host job target r)
      (deliver (host.describing describe) { job with engine := source } target r) := by
  intro s u hsu
  have hanchor : anchorOutput (host.describing describe) u.disk job.options job.cwd
      = anchorOutput host s.disk job.options job.cwd := by
    rw [hsu.disk]
    rfl
  rw [runFrom_deliver, runFrom_deliver, hanchor]
  split
  next => exact ⟨rfl, hsu⟩
  next =>
    cases anchorOutput host s.disk job.options job.cwd with
    | error f => exact ⟨rfl, hsu⟩
    | ok options => exact Artifact.matches_write host describe r options _ _ s u hsu

/-- Builds that meet errors of the same classes in the same places come to the same, from runs that
differ in the log alone. -/
theorem matches_run (host : Host) (describe : Errno → String)
    (hregistry : registry.Reworded registry') (hengine : job.engine.Reworded source) :
    Running.Matches (run host registry job)
      (run (host.describing describe) registry' { job with engine := source }) := by
  intro s u hsu
  have hcompile := matches_compile host describe hregistry hengine s.disk _ _ hsu.trail
  rw [runFrom_run, runFrom_run, ← hsu.disk]
  generalize (compile host registry s.disk job).runFrom s.trail = p at hcompile
  generalize (compile (host.describing describe) registry' s.disk
    { job with engine := source }).runFrom u.trail = q at hcompile
  obtain ⟨x, t⟩ := p
  obtain ⟨y, v⟩ := q
  obtain ⟨hresult, htrail⟩ := hcompile
  obtain rfl : x = y := hresult.eq
  have hafter : Run.SameButLog { s with trail := t } { u with disk := s.disk, trail := v } :=
    ⟨rfl, hsu.lines, htrail⟩
  cases x with
  | error f =>
    cases f with
    | refused x => exact (uniform_conclude x []).matches_self _ _ hafter
    | _ => exact ⟨rfl, hafter⟩
  | ok answer =>
    obtain ⟨target, r⟩ := answer
    have hreported : (reported s t r.diagnostics).SameButLog (reported u v r.diagnostics) :=
      ⟨hsu.disk, congrArg (· ++ Report.lines r.diagnostics) hsu.lines, htrail.made, htrail.calls,
        htrail.produced⟩
    have hdeliver := matches_deliver host describe job source target r _ _ hreported
    simp only
    generalize (deliver host job target r).runFrom (reported s t r.diagnostics) = p at hdeliver
    generalize (deliver (host.describing describe) { job with engine := source } target r).runFrom
      (reported u v r.diagnostics) = q at hdeliver
    obtain ⟨x, s₁⟩ := p
    obtain ⟨y, u₁⟩ := q
    obtain ⟨hresult, hrun⟩ := hdeliver
    obtain rfl : x = y := hresult
    cases x with
    | ok l =>
      exact ⟨rfl, hrun.disk, hrun.lines, hrun.trail.made, hrun.trail.calls, hrun.trail.produced⟩
    | error f =>
      cases f with
      | refused x => exact (uniform_conclude x r.diagnostics).matches_self _ _ hrun
      | _ => exact ⟨rfl, hrun⟩

/-- Of two builds from one state that meet errors of the same classes in the same places, the
outcome, the lines, the disk, and the calls are the same. Only the log may differ. -/
theorem details_stay_in_log (host : Host) (describe : Errno → String)
    (hregistry : registry.Reworded registry') (hengine : job.engine.Reworded source) (s : Run) :
    let one := (run host registry job).runFrom s
    let other :=
      (run (host.describing describe) registry' { job with engine := source }).runFrom s
    other.1 = one.1 ∧ one.2.SameButLog other.2 := by
  obtain ⟨hresult, hrun⟩ := matches_run host describe hregistry hengine s s (.refl s)
  exact ⟨hresult.symm, hrun⟩

/-- An engine whose service is gone, and which says so. -/
def lostEngine (message : String) : Engine where
  typeName := "Remote"
  compile _ := .error (.foreign { kind := "ConnectionError", message })

/-- A module with an engine whose service is gone. -/
def lostModules (message : String) : Engine.Registry where
  modules :=
    [{ name := "remote", attributes := [("Engine", .object (.engine (lostEngine message)))] }]

/-- What a lost service has to say about it is logged, and no more. -/
theorem lost_service_stays_in_log :
    let host : Host := { cwd := ["w"], homes := ⟨"/", []⟩ }
    let job : Job := { paths := ["Token.cs"], engine := .reference (some "remote:Engine") }
    let s : Run := { disk := (Disk.empty.put ["w"] .folder).put ["w", "Token.cs"] (.file []) }
    let one := (run host (lostModules "10.0.0.7 refused") job).runFrom s
    let other :=
      (run (host.describing fun _ => "?") (lostModules "timed out") job).runFrom s
    (lostModules "10.0.0.7 refused").Reworded (lostModules "timed out")
      ∧ job.engine.Reworded job.engine ∧ one.1.toOption.map (·.status) = some .engineUnavailable
      ∧ one.2.trail.log ≠ other.2.trail.log ∧ other.1 = one.1 ∧ one.2.SameButLog other.2 := by
  intro host job s one other
  have hlost : (lostEngine "10.0.0.7 refused").Reworded (lostEngine "timed out") :=
    ⟨rfl, fun _ => .error (.foreign (by decide) ⟨rfl, rfl⟩)⟩
  have hmodules : (lostModules "10.0.0.7 refused").Reworded (lostModules "timed out") :=
    Engine.Registry.reworded_of_modules rfl
      (.cons ⟨rfl, rfl, .none, .cons ⟨rfl, .object (.engine hlost)⟩ .nil⟩ .nil)
  have hengine : job.engine.Reworded job.engine := .reference _
  have hstatus : one.1.toOption.map (·.status) = some .engineUnavailable := by decide +kernel
  let shown (s : Run) : List (List String) :=
    s.trail.log.map fun r => r.fields.map fun field => field.2.display
  have hlog : one.2.trail.log ≠ other.2.trail.log := by
    intro hsame
    have hshown : shown one.2 = shown other.2 := by simp only [shown, hsame]
    exact absurd hshown (by decide +kernel)
  exact ⟨hmodules, hengine, hstatus, hlog,
    details_stay_in_log host (fun _ => "?") hmodules hengine s⟩

end Build

end ContractBuild
