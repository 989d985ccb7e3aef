import ContractBuild.Proofs.Build.Again
import ContractBuild.Proofs.Build.Endings

/-!
# Loaded engines

Once an engine is loaded, where it came from makes no difference any more: the build goes on as if
the engine had been given to it (`run_of_loads`). Only the log and the number of objects made tell
that it was loaded. Runs that differ in nothing else are alike, and uniform stages keep them alike,
so it is enough to look at the stages up to the answer of the engine.
-/

namespace ContractBuild

namespace Run

/-- Runs that differ at most in the log and in the number of objects made. -/
structure Alike (u v : Run) : Prop where
  disk : u.disk = v.disk
  lines : u.lines = v.lines
  calls : u.trail.calls = v.trail.calls
  produced : u.trail.produced = v.trail.produced

theorem Alike.after {u v : Run} (h : Alike u v) (w : Run) : Alike (u.after w) (v.after w) where
  disk := rfl
  lines := congrArg (· ++ w.lines) h.lines
  calls := congrArg (· ++ w.trail.calls) h.calls
  produced := congrArg (· ++ w.trail.produced) h.produced

end Run

/-- From runs that are alike a uniform stage comes to the same, and the runs stay alike. -/
theorem Running.Uniform.alike {α : Type} {r : Running α} {x : Except Failure α} {u u' v : Run}
    (h : Uniform r) (halike : u.Alike v) (hr : r.runFrom u = (x, u')) :
    ∃ v', r.runFrom v = (x, v') ∧ u'.Alike v' := by
  obtain ⟨w, rfl, hyields⟩ := h.yields hr
  exact ⟨v.after w, hyields v halike.disk.symm, halike.after w⟩

namespace Build

open Running (Uniform)

variable {host : Host} {registry : Engine.Registry} {job : Job} {s u : Run} {target : Target}
variable {e : Engine} {t t' : Trail} {x : Except Failure Outcome}

theorem uniform_conclude (x : Refusal) (ds : List Diagnostic) : Uniform (conclude x ds) :=
  fun d => ⟨_, _, yields_conclude x ds d⟩

/-- After the resolving and the loading there is nothing left but the compilation. -/
theorem compile_of_loads (h : Loads host registry job s target e t) :
    (compile host registry s.disk job).runFrom s.trail
      = (do
        let r ← Compilation.run e (.mode (.target target)) job.options
        return (target, r) : Attempt (Target × Compiled)).runFrom t := by
  obtain ⟨t₁, hresolve, hload⟩ := h
  simp only [compile, Attempt.runFrom_bind, hresolve, hload]

/-- What an engine is given does not depend on how it was loaded. -/
theorem compile_alike (h : Loads host registry job s target e t)
    {y : Except Failure (Target × Compiled)}
    (hcompile : (compile host registry s.disk job).runFrom s.trail = (y, t'))
    (registry' : Engine.Registry) :
    ∃ u', (compile host registry' s.disk { job with engine := .given e }).runFrom s.trail = (y, u')
      ∧ t'.calls = u'.calls ∧ t'.produced = u'.produced := by
  obtain ⟨t₁, hresolve, hload⟩ := id h
  have hgiven : Loads host registry' { job with engine := .given e } s target e t₁ :=
    ⟨t₁, hresolve, rfl⟩
  have hsteady : Attempt.Steady id (do
      let r ← Compilation.run e (.mode (.target target)) job.options
      return (target, r) : Attempt (Target × Compiled)) :=
    (Compilation.steady_run e target job.options).bind fun r =>
      (Attempt.silent_pure (target, r)).steady
  obtain ⟨z, w, hyields, -⟩ := hsteady
  rw [compile_of_loads h, hyields.runFrom_eq] at hcompile
  obtain ⟨rfl, rfl⟩ := Prod.mk.inj hcompile
  refine ⟨t₁.extend w, ?_, ?_, ?_⟩
  · rw [compile_of_loads hgiven, hyields.runFrom_eq]
  · have hcalls := (Engine.silent_ofSource registry job.engine).calls_eq t₁
    rw [hload] at hcalls
    rw [Trail.calls_extend, Trail.calls_extend, hcalls]
  · have hproduced := (Engine.silent_ofSource registry job.engine).steady.produced_eq t₁
    rw [hload] at hproduced
    rw [Trail.produced_extend, Trail.produced_extend, hproduced]

theorem alike_reported (s : Run) (hcalls : t.calls = t'.calls)
    (hproduced : t.produced = t'.produced) (ds : List Diagnostic) :
    (reported s t ds).Alike (reported s t' ds) :=
  ⟨rfl, rfl, hcalls, hproduced⟩

theorem alike_finished {u v : Run} (h : u.Alike v) (status : Status) :
    (finished u status).Alike (finished v status) :=
  ⟨h.disk, h.lines, h.calls, h.produced⟩

/-- A build with an engine that is loaded runs as if the engine were given. -/
theorem run_of_loads (h : Loads host registry job s target e t)
    (hrun : (run host registry job).runFrom s = (x, u)) (registry' : Engine.Registry) :
    ∃ v, (run host registry' { job with engine := .given e }).runFrom s = (x, v)
      ∧ u.Alike v := by
  have hcompiles {y : Except Failure (Target × Compiled)} {t' : Trail}
      (hcompile : (compile host registry s.disk job).runFrom s.trail = (y, t')) :=
    compile_alike h hcompile registry'
  cases run_iff.1 hrun with
  | @refused _ t₁ _ _ hcompile hend =>
    obtain ⟨t₂, hcompile', hcalls, hproduced⟩ := hcompiles hcompile
    have halike : Run.Alike { s with trail := t₁ } { s with trail := t₂ } :=
      ⟨rfl, rfl, hcalls, hproduced⟩
    obtain ⟨v, hend', hv⟩ := (uniform_conclude _ _).alike halike hend
    exact ⟨v, run_iff.2 (.refused hcompile' hend'), hv⟩
  | broken hcompile hf =>
    obtain ⟨t₂, hcompile', hcalls, hproduced⟩ := hcompiles hcompile
    exact ⟨_, run_iff.2 (.broken hcompile' hf), ⟨rfl, rfl, hcalls, hproduced⟩⟩
  | refusedLate hcompile hdeliver hend =>
    obtain ⟨t₂, hcompile', hcalls, hproduced⟩ := hcompiles hcompile
    obtain ⟨v, hdeliver', hv⟩ := (uniform_deliver host job _ _).alike
      (alike_reported s hcalls hproduced _) hdeliver
    obtain ⟨w, hend', hw⟩ := (uniform_conclude _ _).alike hv hend
    exact ⟨w, run_iff.2 (.refusedLate hcompile' hdeliver' hend'), hw⟩
  | brokenLate hcompile hdeliver hf =>
    obtain ⟨t₂, hcompile', hcalls, hproduced⟩ := hcompiles hcompile
    obtain ⟨v, hdeliver', hv⟩ := (uniform_deliver host job _ _).alike
      (alike_reported s hcalls hproduced _) hdeliver
    exact ⟨v, run_iff.2 (.brokenLate hcompile' hdeliver' hf), hv⟩
  | delivered hcompile hdeliver =>
    obtain ⟨t₂, hcompile', hcalls, hproduced⟩ := hcompiles hcompile
    obtain ⟨v, hdeliver', hv⟩ := (uniform_deliver host job _ _).alike
      (alike_reported s hcalls hproduced _) hdeliver
    exact ⟨_, run_iff.2 (.delivered hcompile' hdeliver'), alike_finished hv .succeeded⟩

/-- A build whose engine cannot be loaded ends in that failure, with nothing written or called. -/
theorem run_of_not_loaded {f : Failure} {t₁ : Trail}
    (hresolve : (Sources.resolve host s.disk job.paths job.cwd).runFrom s.trail = (.ok target, t₁))
    (hload : (Engine.ofSource registry job.engine).runFrom t₁ = (.error f, t))
    (hrun : (run host registry job).runFrom s = (x, u)) :
    x = (concluded [] s.disk f).1 ∧ u.Alike s := by
  have hcompile : (compile host registry s.disk job).runFrom s.trail = (.error f, t) :=
    compile_eq_error_iff.2 (.inr ⟨target, t₁, hresolve, .inl hload⟩)
  have hcalls : t.calls = s.trail.calls := by
    have hresolved := (Sources.silent_resolve host s.disk job.paths job.cwd).calls_eq s.trail
    have hloaded := (Engine.silent_ofSource registry job.engine).calls_eq t₁
    rw [hresolve] at hresolved
    rw [hload] at hloaded
    exact hloaded.trans hresolved
  have hproduced : t.produced = s.trail.produced := by
    have hsteady := (steady_compile host registry s.disk job).produced_eq s.trail
    rwa [hcompile] at hsteady
  rw [runFrom_run, hcompile] at hrun
  cases f with
  | refused y =>
    simp only [runFrom_conclude] at hrun
    rw [concluded]
    cases hstatus : y.status? with
    | none =>
      simp only [hstatus] at hrun ⊢
      obtain ⟨rfl, rfl⟩ := Prod.mk.inj hrun
      exact ⟨rfl, ⟨rfl, rfl, hcalls, hproduced⟩⟩
    | some status =>
      simp only [hstatus] at hrun ⊢
      obtain ⟨rfl, rfl⟩ := Prod.mk.inj hrun
      exact ⟨rfl, ⟨rfl, rfl, hcalls, hproduced⟩⟩
  | _ =>
    obtain ⟨rfl, rfl⟩ := Prod.mk.inj hrun
    exact ⟨rfl, ⟨rfl, rfl, hcalls, hproduced⟩⟩

end Build

end ContractBuild
