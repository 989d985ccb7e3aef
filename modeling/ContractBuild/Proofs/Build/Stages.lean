import ContractBuild.Build.Basic
import ContractBuild.Proofs.Artifact.Writing

/-!
# The stages of a build

What a build does, stage by stage: each lemma gives the result of a stage and the run that it
leaves in terms of the stages inside it. Everything up to the answer of the engine is an attempt,
so that the disk on which artifacts are written is the one on which the inputs were found.

There is one lemma for a stage that ends in a result and one for a stage that ends in a failure
(`compile_eq_ok_iff`, `compile_eq_error_iff`), and `run_iff` lists all courses of a build. Proofs
about builds start from these and never unfold the build itself, so a change of a stage shows here
first and in its own module.
-/

namespace ContractBuild.Build

variable {host : Host} {registry : Engine.Registry} {job : Job} {s : Run}

/-- The run after the record of a build's end. -/
def finished (s : Run) (status : Status) : Run :=
  { s with trail := { s.trail with log := s.trail.log ++ [finishedRecord status] } }

/-- The outcome of a build that was refused. -/
def refusedOutcome (status : Status) (x : Refusal) (ds : List Diagnostic) : Outcome where
  status
  message := x.message
  diagnostics := ds

/-- The outcome of a build that delivered its artifacts. -/
def deliveredOutcome (l : Layout) (ds : List Diagnostic) : Outcome where
  status := .succeeded
  layout := some l
  diagnostics := ds

theorem runFrom_conclude (x : Refusal) (ds : List Diagnostic) (s : Run) :
    (conclude x ds).runFrom s =
      match x.status? with
      | some status => (.ok (refusedOutcome status x ds), finished s status)
      | none => (.error (.refused x), s) := by
  unfold conclude
  cases x.status? <;> rfl

/-- The run after an attempt and the report of what the engine had to say. -/
def reported (s : Run) (t : Trail) (ds : List Diagnostic) : Run where
  disk := s.disk
  lines := s.lines ++ Report.lines ds
  trail := { t with log := t.log ++ [Report.reportedRecord ds] }

theorem runFrom_report (ds : List Diagnostic) (s : Run) (t : Trail) :
    (Report.report ds).runFrom { s with trail := t } = (.ok (), reported s t ds) := rfl

/-- A target is compiled if it resolves, an engine is loaded, and the compilation has a result. -/
theorem compile_eq_ok_iff {disk : Disk} {t t' : Trail} {target : Target} {r : Compiled} :
    (compile host registry disk job).runFrom t = (.ok (target, r), t') ↔
      ∃ t₁ e t₂, (Sources.resolve host disk job.paths job.cwd).runFrom t = (.ok target, t₁)
        ∧ (Engine.ofSource registry job.engine).runFrom t₁ = (.ok e, t₂)
        ∧ (Compilation.run e (.mode (.target target)) job.options).runFrom t₂ = (.ok r, t') := by
  constructor
  · intro h
    obtain ⟨found, t₁, hresolve, h⟩ := Attempt.runFrom_bind_eq_ok_iff.1 h
    obtain ⟨e, t₂, hload, h⟩ := Attempt.runFrom_bind_eq_ok_iff.1 h
    obtain ⟨r', t₃, hrun, h⟩ := Attempt.runFrom_bind_eq_ok_iff.1 h
    obtain ⟨hx, rfl⟩ := Prod.mk.inj h
    obtain ⟨rfl, rfl⟩ := Prod.mk.inj (Except.ok.inj hx)
    exact ⟨t₁, e, t₂, hresolve, hload, hrun⟩
  · rintro ⟨t₁, e, t₂, hresolve, hload, hrun⟩
    refine Attempt.runFrom_bind_eq_ok_iff.2 ⟨target, t₁, hresolve, ?_⟩
    refine Attempt.runFrom_bind_eq_ok_iff.2 ⟨e, t₂, hload, ?_⟩
    exact Attempt.runFrom_bind_eq_ok_iff.2 ⟨r, t', hrun, rfl⟩

/-- Nothing is compiled because of the resolving, the loading or the compilation itself. -/
theorem compile_eq_error_iff {disk : Disk} {t t' : Trail} {f : Failure} :
    (compile host registry disk job).runFrom t = (.error f, t') ↔
      (Sources.resolve host disk job.paths job.cwd).runFrom t = (.error f, t')
        ∨ ∃ target t₁,
          (Sources.resolve host disk job.paths job.cwd).runFrom t = (.ok target, t₁)
          ∧ ((Engine.ofSource registry job.engine).runFrom t₁ = (.error f, t')
            ∨ ∃ e t₂, (Engine.ofSource registry job.engine).runFrom t₁ = (.ok e, t₂)
              ∧ (Compilation.run e (.mode (.target target)) job.options).runFrom t₂
                = (.error f, t')) := by
  simp only [compile, Attempt.runFrom_bind_eq_error_iff, Attempt.runFrom_pure, Prod.mk.injEq,
    reduceCtorEq, false_and, and_false, exists_false, or_false]

/-- The delivery of a build. -/
theorem runFrom_deliver (host : Host) (job : Job) (target : Target) (r : Compiled) (s : Run) :
    (deliver host job target r).runFrom s =
      if !r.success then (.error (.refused .failedCompilation), s)
      else
        match anchorOutput host s.disk job.options job.cwd with
        | .error f => (.error f, s)
        | .ok options =>
          (Artifact.write host r options target.folder
            (Compilation.effectiveName r.contractName job.options (.target target))).runFrom s := by
  unfold deliver
  cases hsuccess : r.success with
  | false => simp [Running.runFrom_bind, Attempt.noted]
  | true =>
    simp only [Running.runFrom_bind, Bool.not_true, Bool.false_eq_true, if_false,
      Running.runFrom_get, Running.runFrom_attempt, Attempt.runFrom_ofExcept]
    cases anchorOutput host s.disk job.options job.cwd <;> rfl

/-- Artifacts are delivered only for a success, and with an absolute output directory. -/
theorem deliver_eq_ok_iff {target : Target} {r : Compiled} {l : Layout} {s' : Run} :
    (deliver host job target r).runFrom s = (.ok l, s') ↔
      r.success = true ∧ ∃ options, anchorOutput host s.disk job.options job.cwd = .ok options
        ∧ (Artifact.write host r options target.folder
          (Compilation.effectiveName r.contractName job.options (.target target))).runFrom s
          = (.ok l, s') := by
  rw [runFrom_deliver]
  cases r.success with
  | false => simp
  | true =>
    simp only [Bool.not_true, Bool.false_eq_true, if_false, true_and]
    cases anchorOutput host s.disk job.options job.cwd <;> simp

/-- A whole build. -/
theorem runFrom_run (host : Host) (registry : Engine.Registry) (job : Job) (s : Run) :
    (run host registry job).runFrom s =
      match (compile host registry s.disk job).runFrom s.trail with
      | (.error (.refused x), t) => (conclude x []).runFrom { s with trail := t }
      | (.error f, t) => (.error f, { s with trail := t })
      | (.ok (target, r), t) =>
        match (deliver host job target r).runFrom (reported s t r.diagnostics) with
        | (.ok l, s) => (.ok (deliveredOutcome l r.diagnostics), finished s .succeeded)
        | (.error (.refused x), s) => (conclude x r.diagnostics).runFrom s
        | (.error f, s) => (.error f, s) := by
  unfold run
  simp only [Running.runFrom_bind, Running.runFrom_get, Running.runFrom_catchRefusal,
    Running.runFrom_attempt]
  rcases (compile host registry s.disk job).runFrom s.trail with ⟨f | ⟨target, r⟩, t⟩
  · cases f <;> rfl
  · simp only [Running.runFrom_bind, runFrom_report, Running.runFrom_catchRefusal]
    rcases (deliver host job target r).runFrom (reported s t r.diagnostics) with ⟨f | l, s⟩
    · cases f <;> rfl
    · rfl

/-! ## Ends of a build -/

/-- The ways in which a build ends, with the result and the run after it. A refusal is concluded,
with what the engine had to say once it has answered; every other failure goes through. -/
inductive Runs (host : Host) (registry : Engine.Registry) (job : Job) (s : Run) :
    Except Failure Outcome → Run → Prop
  | refused {x : Refusal} {t : Trail} {y : Except Failure Outcome} {s' : Run}
    (hcompile : (compile host registry s.disk job).runFrom s.trail = (.error (.refused x), t))
    (hend : (conclude x []).runFrom { s with trail := t } = (y, s')) :
    Runs host registry job s y s'
  | broken {f : Failure} {t : Trail}
    (hcompile : (compile host registry s.disk job).runFrom s.trail = (.error f, t))
    (hf : ∀ x, f ≠ .refused x) : Runs host registry job s (.error f) { s with trail := t }
  | refusedLate {target : Target} {r : Compiled} {t : Trail} {x : Refusal} {s₁ s' : Run}
    {y : Except Failure Outcome}
    (hcompile : (compile host registry s.disk job).runFrom s.trail = (.ok (target, r), t))
    (hdeliver : (deliver host job target r).runFrom (reported s t r.diagnostics)
      = (.error (.refused x), s₁))
    (hend : (conclude x r.diagnostics).runFrom s₁ = (y, s')) : Runs host registry job s y s'
  | brokenLate {target : Target} {r : Compiled} {t : Trail} {f : Failure} {s₁ : Run}
    (hcompile : (compile host registry s.disk job).runFrom s.trail = (.ok (target, r), t))
    (hdeliver : (deliver host job target r).runFrom (reported s t r.diagnostics) = (.error f, s₁))
    (hf : ∀ x, f ≠ .refused x) : Runs host registry job s (.error f) s₁
  | delivered {target : Target} {r : Compiled} {t : Trail} {l : Layout} {s₁ : Run}
    (hcompile : (compile host registry s.disk job).runFrom s.trail = (.ok (target, r), t))
    (hdeliver : (deliver host job target r).runFrom (reported s t r.diagnostics) = (.ok l, s₁)) :
    Runs host registry job s (.ok (deliveredOutcome l r.diagnostics)) (finished s₁ .succeeded)

/-- A build ends in one of these ways. -/
theorem run_iff {y : Except Failure Outcome} {s' : Run} :
    (run host registry job).runFrom s = (y, s') ↔ Runs host registry job s y s' := by
  rw [runFrom_run]
  constructor
  · intro h
    split at h
    next hcompile => exact .refused hcompile h
    next f t hf hcompile =>
      obtain ⟨rfl, rfl⟩ := Prod.mk.inj h
      exact .broken hcompile hf
    next hcompile =>
      split at h
      next hdeliver =>
        obtain ⟨rfl, rfl⟩ := Prod.mk.inj h
        exact .delivered hcompile hdeliver
      next hdeliver => exact .refusedLate hcompile hdeliver h
      next hf hdeliver =>
        obtain ⟨rfl, rfl⟩ := Prod.mk.inj h
        exact .brokenLate hcompile hdeliver hf
  · intro h
    cases h with
    | refused hcompile hend => simpa only [hcompile] using hend
    | broken hcompile hf => simp only [hcompile]
    | refusedLate hcompile hdeliver hend => simpa only [hcompile, hdeliver] using hend
    | brokenLate hcompile hdeliver hf => simp only [hcompile, hdeliver]
    | delivered hcompile hdeliver => simp only [hcompile, hdeliver]

theorem conclude_eq_ok_iff {x : Refusal} {ds : List Diagnostic} {o : Outcome} {s s' : Run} :
    (conclude x ds).runFrom s = (.ok o, s') ↔
      ∃ status, x.status? = some status ∧ o = refusedOutcome status x ds
        ∧ s' = finished s status := by
  rw [runFrom_conclude]
  cases x.status? with
  | none => simp
  | some status =>
    constructor
    · intro h
      obtain ⟨ho, rfl⟩ := Prod.mk.inj h
      exact ⟨status, rfl, (Except.ok.inj ho).symm, rfl⟩
    · rintro ⟨_, hstatus, rfl, rfl⟩
      obtain rfl := Option.some.inj hstatus
      rfl

/-- Concluding a refusal touches nothing but the log. -/
theorem disk_of_conclude {x : Refusal} {ds : List Diagnostic} {y : Except Failure Outcome}
    {s s' : Run} (h : (conclude x ds).runFrom s = (y, s')) : s'.disk = s.disk := by
  rw [runFrom_conclude] at h
  split at h
  next =>
    obtain ⟨-, rfl⟩ := Prod.mk.inj h
    rfl
  next =>
    obtain ⟨-, rfl⟩ := Prod.mk.inj h
    rfl

/-- No refusal ends a build in success. -/
theorem status?_ne_succeeded (x : Refusal) : x.status? ≠ some .succeeded := by
  cases x <;> simp [Refusal.status?]

/-- A build whose outcome is a success has delivered its artifacts. -/
theorem exists_of_succeeded {o : Outcome} {s' : Run}
    (h : (run host registry job).runFrom s = (.ok o, s')) (ho : o.status = .succeeded) :
    ∃ target r t l s₁, (compile host registry s.disk job).runFrom s.trail = (.ok (target, r), t)
      ∧ (deliver host job target r).runFrom (reported s t r.diagnostics) = (.ok l, s₁)
      ∧ o = deliveredOutcome l r.diagnostics ∧ s' = finished s₁ .succeeded := by
  cases run_iff.1 h with
  | @refused x _ _ _ _ hend =>
    obtain ⟨status, hstatus, rfl, -⟩ := conclude_eq_ok_iff.1 hend
    exact absurd (hstatus.trans (congrArg some ho)) (status?_ne_succeeded x)
  | @refusedLate _ _ _ x _ _ _ _ _ hend =>
    obtain ⟨status, hstatus, rfl, -⟩ := conclude_eq_ok_iff.1 hend
    exact absurd (hstatus.trans (congrArg some ho)) (status?_ne_succeeded x)
  | delivered hcompile hdeliver => exact ⟨_, _, _, _, _, hcompile, hdeliver, rfl, rfl⟩

/-- What a delivery does to the disk is what its writing does, if it gets that far. -/
theorem disk_of_deliver {target : Target} {r : Compiled} {x : Except Failure Layout} {s' : Run}
    (h : (deliver host job target r).runFrom s = (x, s')) :
    s'.disk = s.disk ∨ ∃ options, r.success = true
      ∧ anchorOutput host s.disk job.options job.cwd = .ok options
      ∧ (Artifact.write host r options target.folder
        (Compilation.effectiveName r.contractName job.options (.target target))).runFrom s
        = (x, s') := by
  rw [runFrom_deliver] at h
  split at h
  next =>
    obtain ⟨-, rfl⟩ := Prod.mk.inj h
    exact .inl rfl
  next hsuccess =>
    split at h
    next =>
      obtain ⟨-, rfl⟩ := Prod.mk.inj h
      exact .inl rfl
    next options hoptions => exact .inr ⟨options, by simpa using hsuccess, hoptions, h⟩

/-- A build that gets as far as writing its artifacts: the writing of what was compiled goes from
`s₁` to `s₂`. -/
structure Wrote (host : Host) (registry : Engine.Registry) (job : Job) (s : Run) (target : Target)
    (r : Compiled) (options : Options) (y : Except Failure Layout) (s₁ s₂ : Run) : Prop where
  compiled : ∃ t, (compile host registry s.disk job).runFrom s.trail = (.ok (target, r), t)
    ∧ s₁ = reported s t r.diagnostics
  success : r.success = true
  anchored : anchorOutput host s.disk job.options job.cwd = .ok options
  written : (Artifact.write host r options target.folder
    (Compilation.effectiveName r.contractName job.options (.target target))).runFrom s₁ = (y, s₂)

/-- What a build does to the disk once the engine has answered is what its delivery does. -/
theorem disk_of_compile {x : Except Failure Outcome} {s' : Run} {target : Target} {r : Compiled}
    {t : Trail}
    (hcompile : (compile host registry s.disk job).runFrom s.trail = (.ok (target, r), t))
    (h : (run host registry job).runFrom s = (x, s')) :
    ∃ y s₁, (deliver host job target r).runFrom (reported s t r.diagnostics) = (y, s₁)
      ∧ s'.disk = s₁.disk := by
  rcases hdeliver : (deliver host job target r).runFrom (reported s t r.diagnostics) with ⟨y, s₁⟩
  refine ⟨y, s₁, rfl, ?_⟩
  rw [runFrom_run, hcompile] at h
  simp only [hdeliver] at h
  rcases y with f | l
  · cases f with
    | refused x => exact disk_of_conclude h
    | _ =>
      obtain ⟨-, rfl⟩ := Prod.mk.inj h
      rfl
  · obtain ⟨-, rfl⟩ := Prod.mk.inj h
    rfl

/-- What a build does to the disk is what its writing does, if it gets that far. -/
theorem disk_of_run {x : Except Failure Outcome} {s' : Run}
    (h : (run host registry job).runFrom s = (x, s')) :
    s'.disk = s.disk ∨ ∃ target r options y s₁ s₂,
      Wrote host registry job s target r options y s₁ s₂ ∧ s'.disk = s₂.disk := by
  rcases hcompile : (compile host registry s.disk job).runFrom s.trail with ⟨f | ⟨target, r⟩, t⟩
  · refine .inl ?_
    rw [runFrom_run, hcompile] at h
    cases f with
    | refused x =>
      have hdisk := disk_of_conclude h
      exact hdisk
    | _ =>
      obtain ⟨-, rfl⟩ := Prod.mk.inj h
      rfl
  · obtain ⟨y, s₁, hdeliver, hdisk⟩ := disk_of_compile hcompile h
    rw [hdisk]
    rcases disk_of_deliver hdeliver with hsame | ⟨options, hsuccess, hoptions, hwrite⟩
    · exact .inl hsame
    · exact .inr ⟨target, r, options, y, _, s₁,
        ⟨⟨t, hcompile, rfl⟩, hsuccess, hoptions, hwrite⟩, rfl⟩

end ContractBuild.Build
