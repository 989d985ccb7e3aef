import ContractBuild.Proofs.Artifact.Again
import ContractBuild.Proofs.Build.Exceptions
import ContractBuild.Proofs.Build.Inputs
import ContractBuild.Proofs.Build.Steady

/-!
# Builds run again

A build that is run a second time, on the disk that the first run left, ends as the first did,
adds the same lines, records and calls, and leaves the disk exactly as it is, even if it stops
half-way (`run_again`).

Each stage is shown to come to the same on the disk that the whole run left, which is not the one
it saw the first time. For resolving this is `Sources.resolve_again`, as a writing keeps the
inputs; for loading and compiling it needs nothing, since they do not look at the disk; for
writing it is `Artifact.yields_write_again`.

There are two ways in which a first run can make a difference to the next: it may crowd a
directory that it scanned, so that the scan fails, and it may remove a device under the name of an
artifact, which is then no longer in the way. Both occur (`second_run_differs`).
-/

namespace ContractBuild

namespace Build

open Running (Yields Uniform)

variable {host : Host} {registry : Engine.Registry} {job : Job} {d e : Disk} {s s' : Run}
variable {target : Target} {r : Compiled} {t : Trail} {f : Failure}

/-! ## Up to the answer of the engine -/

/-- What was compiled is compiled again, as long as the inputs are kept and the directory is not
crowded. -/
theorem compile_again (hkept : Sources.InputsKept d e) (hd : d.LinkFree)
    (hnot : ¬ Sources.Outgrown host d e job.paths job.cwd)
    (h : Attempt.Yields id (compile host registry d job) (.ok (target, r)) t) :
    Attempt.Yields id (compile host registry e job) (.ok (target, r)) t := by
  refine Attempt.yields_of_runFrom fun t₀ => ?_
  obtain ⟨t₁, eng, t₂, hresolve, hload, hrun⟩ := compile_eq_ok_iff.1 (h.runFrom_eq t₀)
  have hagain := (Sources.resolve_again hkept hd hresolve (.inl ⟨target, rfl⟩)).1 hnot
  exact compile_eq_ok_iff.2 ⟨t₁, eng, t₂, hagain, hload, hrun⟩

/-- In a crowded directory nothing is compiled any more. -/
theorem compile_outgrown (hkept : Sources.InputsKept d e) (hd : d.LinkFree)
    (houtgrown : Sources.Outgrown host d e job.paths job.cwd)
    (h : Attempt.Yields id (compile host registry d job) (.ok (target, r)) t) :
    Attempt.Yields id (compile host registry e job) (.error (.system .nameTooLong)) {} := by
  refine Attempt.yields_of_runFrom fun t₀ => ?_
  obtain ⟨t₁, eng, t₂, hresolve, -, -⟩ := compile_eq_ok_iff.1 (h.runFrom_eq t₀)
  have hcrowded := (Sources.resolve_again hkept hd hresolve (.inl ⟨target, rfl⟩)).2 houtgrown
  rw [Trail.extend_blank]
  exact compile_eq_error_iff.2 (.inl hcrowded)

/-! ## The delivery -/

theorem anchorOutput_again {options options' : Options} {cwd : Option String}
    (hkept : Disk.FoldersKept d e) (h : anchorOutput host d options cwd = .ok options') :
    anchorOutput host e options cwd = .ok options' := by
  unfold anchorOutput at h ⊢
  split at h
  next => exact h
  next p hp =>
    obtain ⟨base, hbase, h⟩ := bind_eq_ok_iff.1 h
    exact bind_eq_ok_iff.2 ⟨base, Host.base_again hkept hbase, h⟩

theorem yields_deliver_failed (hfailed : r.success = false) (host : Host) (job : Job)
    (target : Target) (d : Disk) :
    (deliver host job target r).Yields d (.error (.refused .failedCompilation)) (.blank d) := by
  rintro s rfl
  rw [runFrom_deliver, hfailed, Run.after_blank]
  rfl

theorem yields_deliver_unanchored (hsuccess : r.success = true)
    (hanchor : anchorOutput host d job.options job.cwd = .error f) (target : Target) :
    (deliver host job target r).Yields d (.error f) (.blank d) := by
  rintro s rfl
  rw [runFrom_deliver, hsuccess, Run.after_blank]
  simp [hanchor]

theorem yields_deliver_of_write {options : Options} {y : Except Failure Layout} {u : Run}
    (hsuccess : r.success = true)
    (hanchor : anchorOutput host d job.options job.cwd = .ok options)
    (h : (Artifact.write host r options target.folder
      (Compilation.effectiveName r.contractName job.options (.target target))).Yields d y u) :
    (deliver host job target r).Yields d y u := by
  rintro s rfl
  rw [runFrom_deliver, hsuccess]
  simp only [Bool.not_true, Bool.false_eq_true, if_false, hanchor]
  exact h s rfl

theorem uniform_deliver (host : Host) (job : Job) (target : Target) (r : Compiled) :
    (deliver host job target r).Uniform := by
  intro d
  cases hsuccess : r.success with
  | false => exact ⟨_, _, yields_deliver_failed hsuccess host job target d⟩
  | true =>
    cases hanchor : anchorOutput host d job.options job.cwd with
    | error f => exact ⟨_, _, yields_deliver_unanchored hsuccess hanchor target⟩
    | ok options =>
      obtain ⟨y, u, hwrite⟩ := Artifact.uniform_write host r options target.folder
        (Compilation.effectiveName r.contractName job.options (.target target)) d
      exact ⟨y, u, yields_deliver_of_write hsuccess hanchor hwrite⟩

/-- A delivery that is repeated comes to the same and changes nothing. -/
theorem yields_deliver_again {y : Except Failure Layout} {u : Run} (hd : d.LinkFree)
    (hfolder : target.folder.Direct) (h : (deliver host job target r).Yields d y u)
    (hdevices : Disk.DevicesKept d u.disk) :
    (deliver host job target r).Yields u.disk y u := by
  cases hsuccess : r.success with
  | false =>
    obtain ⟨rfl, rfl⟩ := h.unique (yields_deliver_failed hsuccess host job target d)
    exact h
  | true =>
    cases hanchor : anchorOutput host d job.options job.cwd with
    | error f =>
      obtain ⟨rfl, rfl⟩ := h.unique (yields_deliver_unanchored hsuccess hanchor target)
      exact h
    | ok options =>
      obtain ⟨z, w, hwrite⟩ := Artifact.uniform_write host r options target.folder
        (Compilation.effectiveName r.contractName job.options (.target target)) d
      obtain ⟨rfl, rfl⟩ := h.unique (yields_deliver_of_write hsuccess hanchor hwrite)
      have hdirect := direct_outputFolder hanchor hfolder
      have hkept := Artifact.inputsKept_write (s := .blank d) hd hdirect.absolute
        (hwrite (.blank d) rfl)
      exact yields_deliver_of_write hsuccess (anchorOutput_again hkept.folders hanchor)
        (Artifact.yields_write_again hd hdirect hwrite hdevices)

/-! ## The whole build -/

/-- What a failure becomes at the end of a build. -/
def concluded (ds : List Diagnostic) (d : Disk) : Failure → Except Failure Outcome × Run
  | .refused x =>
    match x.status? with
    | some status => (.ok (refusedOutcome status x ds), finished (.blank d) status)
    | none => (.error (.refused x), .blank d)
  | f => (.error f, .blank d)

/-- What a delivery becomes at the end of a build. -/
def ended (ds : List Diagnostic) (d : Disk) : Except Failure Layout → Except Failure Outcome × Run
  | .ok l => (.ok (deliveredOutcome l ds), finished (.blank d) .succeeded)
  | .error f => concluded ds d f

theorem after_finished (s : Run) (status : Status) :
    s.after (finished (.blank s.disk) status) = finished s status := by
  simp [Run.after, finished, Run.blank, Trail.extend]

theorem yields_conclude (x : Refusal) (ds : List Diagnostic) (d : Disk) :
    (conclude x ds).Yields d (concluded ds d (.refused x)).1 (concluded ds d (.refused x)).2 := by
  rintro s rfl
  rw [runFrom_conclude, concluded]
  cases x.status? with
  | none => simp only [Run.after_blank]
  | some status => simp only [after_finished]

/-- A build that fails before the engine has answered. -/
theorem yields_run_of_error
    (h : Attempt.Yields id (compile host registry d job) (.error f) t) :
    (run host registry job).Yields d (concluded [] d f).1
      (Run.after { disk := d, trail := t } (concluded [] d f).2) := by
  rintro s rfl
  have hafter : { s with trail := s.trail.extend t } = s.after { disk := s.disk, trail := t } := by
    simp [Run.after]
  rw [runFrom_run, h.runFrom_eq, ← Run.after_after]
  cases f with
  | refused x => exact hafter ▸ yields_conclude x [] s.disk _ rfl
  | _ => exact hafter ▸ Running.yields_fail _ s.disk _ rfl

/-- What is added up to the report of what the engine had to say. -/
def answeredRun (d : Disk) (t : Trail) (ds : List Diagnostic) : Run := reported (.blank d) t ds

/-- A build that goes on after the answer of the engine. -/
theorem yields_run_of_ok {y : Except Failure Layout} {u : Run}
    (h : Attempt.Yields id (compile host registry d job) (.ok (target, r)) t)
    (hdeliver : (deliver host job target r).Yields d y u) :
    (run host registry job).Yields d (ended r.diagnostics u.disk y).1
      ((answeredRun d t r.diagnostics).after (u.after (ended r.diagnostics u.disk y).2)) := by
  rintro s rfl
  -- what the engine had to say is reported before anything is delivered
  have hafter : reported s (s.trail.extend t) r.diagnostics
      = s.after (answeredRun s.disk t r.diagnostics) := by
    simp [Run.after, reported, answeredRun, Run.blank, Trail.extend]
  have hdelivered := hdeliver (reported s (s.trail.extend t) r.diagnostics) rfl
  rw [runFrom_run, h.runFrom_eq, ← Run.after_after, ← Run.after_after, ← hafter]
  simp only [hdelivered]
  rcases y with f | l
  · cases f with
    | refused x => exact yields_conclude x r.diagnostics u.disk _ rfl
    | _ => exact Running.yields_fail _ u.disk _ rfl
  · simp only [ended]
    rw [← after_finished]
    rfl

theorem uniform_run (host : Host) (registry : Engine.Registry) (job : Job) :
    (run host registry job).Uniform := by
  intro d
  obtain ⟨x, t, hcompile, -⟩ := steady_compile host registry d job
  rcases x with f | ⟨target, r⟩
  · exact ⟨_, _, yields_run_of_error hcompile⟩
  · obtain ⟨y, u, hdeliver⟩ := uniform_deliver host job target r d
    exact ⟨_, _, yields_run_of_ok hcompile hdeliver⟩

theorem disk_ended (ds : List Diagnostic) (d : Disk) (y : Except Failure Layout) :
    (ended ds d y).2.disk = d := by
  rcases y with f | l
  · cases f with
    | refused x =>
      simp only [ended, concluded]
      cases x.status? <;> rfl
    | _ => rfl
  · rfl

/-- What a build added it adds again, unless the directory has become crowded. -/
theorem yields_run_again {x : Except Failure Outcome} {u : Run} (hd : d.LinkFree)
    (h : (run host registry job).Yields d x u) (hdevices : Disk.DevicesKept d u.disk) :
    (¬ Sources.Outgrown host d u.disk job.paths job.cwd →
        (run host registry job).Yields u.disk x u)
      ∧ (Sources.Outgrown host d u.disk job.paths job.cwd →
        (run host registry job).Yields u.disk (.error (.system .nameTooLong)) (.blank u.disk)) := by
  have hkept := inputsKept_run (s := .blank d) hd (h (.blank d) rfl)
  obtain ⟨z, t, hcompile, -⟩ := steady_compile host registry d job
  rcases z with f | ⟨target, r⟩
  · -- nothing was compiled, so nothing was touched
    obtain ⟨rfl, rfl⟩ := h.unique (yields_run_of_error hcompile)
    have hdisk : (concluded [] d f).2.disk = d := disk_ended [] d (.error f)
    rw [Run.disk_after, hdisk]
    exact ⟨fun _ => h, fun ⟨_, _, _, _, hnone, hsome, _⟩ => absurd hnone hsome⟩
  · obtain ⟨y, v, hdeliver⟩ := uniform_deliver host job target r d
    obtain ⟨rfl, rfl⟩ := h.unique (yields_run_of_ok hcompile hdeliver)
    have hdisk : (ended r.diagnostics v.disk y).2.disk = v.disk := disk_ended _ _ _
    simp only [Run.disk_after, hdisk] at hdevices hkept ⊢
    obtain ⟨_, _, _, hresolve, -, -⟩ := compile_eq_ok_iff.1 (hcompile.runFrom_eq {})
    have hfolder := Sources.direct_folder_of_resolve hresolve
    refine ⟨fun hnot => ?_, fun houtgrown => ?_⟩
    · exact yields_run_of_ok (compile_again hkept hd hnot hcompile)
        (yields_deliver_again hd hfolder hdeliver hdevices)
    · exact yields_run_of_error (compile_outgrown hkept hd houtgrown hcompile)

/-- A build that is run again on the disk that it left ends as before, whatever happened in between
elsewhere: it adds the same lines, records and calls, and leaves the disk as it is. If the directory
has become crowded, it fails at once. -/
theorem run_again {x : Except Failure Outcome} (hd : s.disk.LinkFree)
    (h : (run host registry job).runFrom s = (x, s'))
    (hdevices : Disk.DevicesKept s.disk s'.disk) :
    ∃ u, s' = s.after u ∧ ∀ v : Run, v.disk = s'.disk →
      (¬ Sources.Outgrown host s.disk s'.disk job.paths job.cwd →
        (run host registry job).runFrom v = (x, v.after u))
      ∧ (Sources.Outgrown host s.disk s'.disk job.paths job.cwd →
        (run host registry job).runFrom v = (.error (.system .nameTooLong), v)) := by
  obtain ⟨u, rfl, hyields⟩ := (uniform_run host registry job).yields h
  refine ⟨u, rfl, fun v hv => ?_⟩
  obtain ⟨hagain, hcrowded⟩ := yields_run_again hd hyields hdevices
  refine ⟨fun hnot => hagain hnot v hv, fun houtgrown => ?_⟩
  rw [hcrowded houtgrown v hv]
  rw [Run.disk_after] at hv
  rw [← hv, Run.after_blank]

/-- A build that is refused half-way, because a directory has the name of the second artifact: the
second run ends in the same outcome and leaves the disk as the first did. -/
theorem half_written_again :
    let host : Host := { cwd := ["w"], homes := ⟨"/", []⟩ }
    let job : Job :=
      { options := { outputDirectory := some (.ofText ".") }
        engine := .given ({} : Canned).engine }
    let disk : Disk := (Disk.empty.put ["w"] .folder).put ["w", "Token.cs"] (.file [])
    let s : Run := { disk := disk.put ["w", "Token.manifest.json"] .folder }
    ∃ o s', (run host {} job).runFrom s = (.ok o, s') ∧ o.status = .ioFailure
      ∧ s'.disk ≠ s.disk
      ∧ ∃ s'', (run host {} job).runFrom s' = (.ok o, s'') ∧ s''.disk = s'.disk := by
  intro host job disk s
  have hd : s.disk.LinkFree := by decide +kernel
  have hends : ((run host {} job).runFrom s).1.toOption.map Outcome.status = some .ioFailure := by
    decide +kernel
  have hchanges : ((run host {} job).runFrom s).2.disk ≠ s.disk := by decide +kernel
  have hclassify : Sources.classify host s.disk [] none = .ok (.directory (.ofText "/w")) := by
    decide +kernel
  rcases hrun : (run host {} job).runFrom s with ⟨f | o, s'⟩
  · simp [hrun, Except.toOption] at hends
  · have hdevices : Disk.DevicesKept s.disk s'.disk :=
      Disk.devicesKept_of_forall (by decide +kernel)
    obtain ⟨u, hs', hagain⟩ := run_again hd hrun hdevices
    have hsecond := (hagain s' rfl).1 (Sources.not_outgrown hclassify (by decide +kernel))
    refine ⟨o, s', rfl, by simpa [hrun, Except.toOption] using hends, ?_, _, hsecond, ?_⟩
    · rwa [hrun] at hchanges
    · rw [Run.disk_after, hs', Run.disk_after]

/-- What crowds its directory fails the second time only. -/
theorem deepJob_again {x : Except Failure Outcome}
    (h : (run rootHost {} deepJob).runFrom { disk := deepDisk } = (x, s')) :
    x ≠ .error (.system .nameTooLong)
      ∧ (run rootHost {} deepJob).runFrom s' = (.error (.system .nameTooLong), s') := by
  obtain ⟨target, hresolve⟩ := exists_resolve_deepJob
  constructor
  · rintro rfl
    exact run_ne_system (s := { disk := deepDisk }) Canned.behaves_engine rfl (hresolve {})
      anchorOutput_deepJob h
  · have hkept := inputsKept_run (s := { disk := deepDisk }) linkFree_deepDisk h
    have hcrowded := (Sources.resolve_again hkept linkFree_deepDisk (hresolve s'.trail)
      (.inl ⟨target, rfl⟩)).2 (outgrown_deepJob h)
    exact run_iff.2 (.broken (compile_eq_error_iff.2 (.inl hcrowded)) (by simp))

/-- Two builds that come to something else when they are run again: one whose directory becomes
crowded, and one that takes a device out of its own way. -/
theorem second_run_differs :
    (deepDisk.LinkFree ∧ ∃ x s', (run rootHost {} deepJob).runFrom { disk := deepDisk } = (x, s')
        ∧ x ≠ .error (.system .nameTooLong)
        ∧ (run rootHost {} deepJob).runFrom s' = (.error (.system .nameTooLong), s'))
      ∧ let host : Host := { cwd := ["w"], homes := ⟨"/", []⟩ }
        let job : Job :=
          { options := { outputDirectory := some (.ofText ".") }
            engine := .given ({} : Canned).engine }
        let disk : Disk := (Disk.empty.put ["w"] .folder).put ["w", "Token.cs"] (.file [])
        let s : Run := { disk := disk.put ["w", "Token.nef"] (.device .full) }
        s.disk.LinkFree ∧ ∃ o o' s' s'', (run host {} job).runFrom s = (.ok o, s')
          ∧ o.status = .ioFailure ∧ (run host {} job).runFrom s' = (.ok o', s'')
          ∧ o'.status = .succeeded := by
  constructor
  · rcases hrun : (run rootHost {} deepJob).runFrom { disk := deepDisk } with ⟨x, s'⟩
    obtain ⟨hfirst, hsecond⟩ := deepJob_again hrun
    exact ⟨linkFree_deepDisk, x, s', rfl, hfirst, hsecond⟩
  · intro host job disk s
    have hends : ((run host {} job).runFrom s).1.toOption.map Outcome.status = some .ioFailure := by
      decide +kernel
    have hagain : ((run host {} job).runFrom ((run host {} job).runFrom s).2).1.toOption.map
        Outcome.status = some .succeeded := by decide +kernel
    refine ⟨by decide +kernel, ?_⟩
    rcases hrun : (run host {} job).runFrom s with ⟨f | o, s'⟩
    · simp [hrun, Except.toOption] at hends
    · rw [hrun] at hends hagain
      rcases hrun' : (run host {} job).runFrom s' with ⟨f | o', s''⟩
      · simp [hrun', Except.toOption] at hagain
      · simp only [hrun'] at hagain
        exact ⟨o, o', s', s'', rfl, Option.some.inj hends, hrun', Option.some.inj hagain⟩

end Build

end ContractBuild
