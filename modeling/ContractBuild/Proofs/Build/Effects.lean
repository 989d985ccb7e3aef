import ContractBuild.Proofs.Build.Endings
import ContractBuild.Proofs.Build.Steady

/-!
# When a build leaves the disk alone

Only the delivery of a successful compilation writes anything or calls a producer. Whatever else
ends a build, with an outcome or with a failure that goes through, leaves the disk as it was and
every artifact unproduced; and artifacts of an unsuccessful compilation cannot be written at all
(`no_effect_without_success`).
-/

namespace ContractBuild.Build

variable {host : Host} {registry : Engine.Registry} {job : Job} {s s' : Run}

/-- The disk is as before, and no producer was called. -/
structure Unaffected (s s' : Run) : Prop where
  disk : s'.disk = s.disk
  produced : s'.trail.produced = s.trail.produced

namespace Unaffected

theorem refl (s : Run) : Unaffected s s := ⟨rfl, rfl⟩

theorem trans {s₁ : Run} (h : Unaffected s s₁) (h' : Unaffected s₁ s') : Unaffected s s' :=
  ⟨h'.disk.trans h.disk, h'.produced.trans h.produced⟩

end Unaffected

theorem unaffected_compile {x : Except Failure (Target × Compiled)} {t : Trail}
    (h : (compile host registry s.disk job).runFrom s.trail = (x, t)) :
    Unaffected s { s with trail := t } := by
  have hproduced := (steady_compile host registry s.disk job).produced_eq s.trail
  rw [h] at hproduced
  exact ⟨rfl, hproduced⟩

theorem unaffected_reported (s : Run) (t : Trail) (ds : List Diagnostic) :
    Unaffected { s with trail := t } (reported s t ds) := ⟨rfl, rfl⟩

theorem unaffected_conclude {x : Refusal} {ds : List Diagnostic} {y : Except Failure Outcome}
    (h : (conclude x ds).runFrom s = (y, s')) : Unaffected s s' := by
  refine ⟨disk_of_conclude h, ?_⟩
  rw [runFrom_conclude] at h
  split at h
  next =>
    obtain ⟨-, rfl⟩ := Prod.mk.inj h
    rfl
  next =>
    obtain ⟨-, rfl⟩ := Prod.mk.inj h
    rfl

/-- The delivery of a failed compilation is refused at once. -/
theorem unaffected_deliver {target : Target} {r : Compiled} {x : Except Failure Layout}
    (hfailed : r.success = false) (h : (deliver host job target r).runFrom s = (x, s')) :
    x = .error (.refused .failedCompilation) ∧ Unaffected s s' := by
  rw [runFrom_deliver, hfailed] at h
  obtain ⟨rfl, rfl⟩ := Prod.mk.inj h
  exact ⟨rfl, .refl s⟩

/-- What is written to disk, and the producers called, come after an answer that tells of
success. -/
theorem unaffected_run {x : Except Failure Outcome}
    (h : (run host registry job).runFrom s = (x, s'))
    (hfailed : ∀ target r s₁, Answers host registry job s target r s₁ → r.success = false) :
    Unaffected s s' := by
  have hreported : ∀ {target r t},
      (compile host registry s.disk job).runFrom s.trail = (.ok (target, r), t) →
        r.success = false ∧ Unaffected s (reported s t r.diagnostics) := by
    intro target r t hcompile
    exact ⟨hfailed target r _ (answers_iff.2 ⟨t, hcompile, rfl⟩),
      (unaffected_compile hcompile).trans (unaffected_reported s t _)⟩
  cases run_iff.1 h with
  | refused hcompile hend => exact (unaffected_compile hcompile).trans (unaffected_conclude hend)
  | broken hcompile => exact unaffected_compile hcompile
  | refusedLate hcompile hdeliver hend =>
    obtain ⟨hr, hs⟩ := hreported hcompile
    exact (hs.trans (unaffected_deliver hr hdeliver).2).trans (unaffected_conclude hend)
  | brokenLate hcompile hdeliver =>
    obtain ⟨hr, hs⟩ := hreported hcompile
    exact hs.trans (unaffected_deliver hr hdeliver).2
  | delivered hcompile hdeliver =>
    obtain ⟨hr, -⟩ := hreported hcompile
    exact absurd (unaffected_deliver hr hdeliver).1 (by simp)

/-- A build in which no engine answers with a success has no effect, however it ends, and neither
has a writing of what did not succeed, which is a misuse. -/
theorem no_effect_without_success (host : Host) :
    (∀ registry job s x s', (run host registry job).runFrom s = (x, s') →
      (∀ target r s₁, Answers host registry job s target r s₁ → r.success = false) →
        s'.disk = s.disk ∧ s'.trail.produced = s.trail.produced)
    ∧ ∀ r options fallback name s, r.success = false →
      (Artifact.write host r options fallback name).runFrom s
        = (.error (.misuse .unsuccessful), s) := by
  refine ⟨fun registry job s x s' h hfailed => ?_, fun r options fallback name s hfailed => ?_⟩
  · have hunaffected := unaffected_run h hfailed
    exact ⟨hunaffected.disk, hunaffected.produced⟩
  · exact Artifact.write_iff.2 (.unsuccessful hfailed)

/-- An engine that answers that the compilation failed. Nothing is written for it. -/
theorem failed_compilation_no_effect :
    let host : Host := { cwd := ["w"], homes := ⟨"/", []⟩ }
    let c : Canned := { verdict := .bool false }
    let job : Job := { paths := ["Token.cs"], engine := .given c.engine }
    let s : Run := { disk := (Disk.empty.put ["w"] .folder).put ["w", "Token.cs"] (.file []) }
    ∃ o s', (run host {} job).runFrom s = (.ok o, s') ∧ o.status = .compilationFailed
      ∧ s'.disk = s.disk ∧ s'.trail.produced = s.trail.produced
      ∧ (Artifact.write host (c.answer {}) {} (.ofText "/w") (.str "Token")).runFrom s
        = (.error (.misuse .unsuccessful), s) := by
  intro host c job s
  obtain ⟨hbuild, hwrite⟩ := no_effect_without_success host
  have hfailed : ∀ target r s₁, Answers host {} job s target r s₁ → r.success = false := by
    rintro target r s₁ ⟨e, t, ⟨t₁, -, hload⟩, hcall, -⟩
    obtain rfl : c.engine = e := Except.ok.inj (congrArg Prod.fst hload)
    obtain rfl : c.answer (Compilation.call target job.options).options = r := Except.ok.inj hcall
    rfl
  have hreturns : ((run host {} job).runFrom s).1.toOption.map Outcome.status
      = some .compilationFailed := by decide +kernel
  rcases hrun : (run host {} job).runFrom s with ⟨f | o, s'⟩
  · simp [hrun, Except.toOption] at hreturns
  · obtain ⟨hdisk, hproduced⟩ := hbuild {} job s _ s' hrun hfailed
    have ho : o.status = .compilationFailed := by
      simpa [hrun, Except.toOption] using hreturns
    exact ⟨o, s', rfl, ho, hdisk, hproduced, hwrite _ _ _ _ s rfl⟩

end ContractBuild.Build
