import ContractBuild.Proofs.Build.Crowding

/-!
# A build leaves its inputs alone

However a build ends, every source and every project descriptor is as before and no new one is
there, so that the inputs of this and of every other build resolve as before
(`inputs_survive_run`). A directory that is spelled with two slashes can become crowded, because a
build may create its output folder there: `outgrown_directory_fails` shows one.
-/

namespace ContractBuild

namespace Build

variable {host : Host} {registry : Engine.Registry} {job : Job} {s s' : Run}

/-- A build writes into a folder that starts at the root, so it keeps the inputs. -/
theorem inputsKept_run {x : Except Failure Outcome} (hd : s.disk.LinkFree)
    (h : (run host registry job).runFrom s = (x, s')) : Sources.InputsKept s.disk s'.disk := by
  rcases disk_of_run h with hsame | ⟨target, r, options, y, s₁, s₂, hwrote, hdisk⟩
  · rw [hsame]
    exact .refl _
  · obtain ⟨t, hcompile, rfl⟩ := hwrote.compiled
    obtain ⟨_, _, _, hresolve, -, -⟩ := compile_eq_ok_iff.1 hcompile
    have hdirect := direct_outputFolder hwrote.anchored (Sources.direct_folder_of_resolve hresolve)
    rw [hdisk]
    exact Artifact.inputsKept_write (s := reported s t r.diagnostics) hd hdirect.absolute
      hwrote.written

/-- However a build ends, no source or descriptor is changed, added or removed. Whatever other
inputs resolved to, they resolve to afterwards, unless they are a directory that has become
crowded. -/
theorem inputs_survive_run {x : Except Failure Outcome} (hd : s.disk.LinkFree)
    (h : (run host registry job).runFrom s = (x, s')) :
    (∀ k : Location, k.IsInput → s'.disk.file? k = s.disk.file? k)
    ∧ ∀ paths cwd t y t', (Sources.resolve host s.disk paths cwd).runFrom t = (y, t') →
      Sources.Settled y →
        (¬ Sources.Outgrown host s.disk s'.disk paths cwd →
          (Sources.resolve host s'.disk paths cwd).runFrom t = (y, t'))
        ∧ (Sources.Outgrown host s.disk s'.disk paths cwd →
          (Sources.resolve host s'.disk paths cwd).runFrom t
            = (.error (.system .nameTooLong), t)) := by
  have hkept := inputsKept_run hd h
  exact ⟨fun k hk => hkept.file?_eq hk,
    fun _ _ _ _ _ hresolve hsettled => Sources.resolve_again hkept hd hresolve hsettled⟩

/-- A build into the directory of its only source, which is found again. -/
theorem source_survives_run :
    let host : Host := { cwd := ["w"], homes := ⟨"/", []⟩ }
    let job : Job :=
      { options := { outputDirectory := some (.ofText ".") }
        engine := .given ({} : Canned).engine }
    let s : Run := { disk := (Disk.empty.put ["w"] .folder).put ["w", "Token.cs"] (.file []) }
    ∃ x s' y t', (run host {} job).runFrom s = (.ok x, s') ∧ x.status = .succeeded
      ∧ s'.disk.file? ["w", "Token.cs"] = some []
      ∧ (Sources.resolve host s.disk [] none).runFrom {} = (.ok y, t')
      ∧ (Sources.resolve host s'.disk [] none).runFrom {} = (.ok y, t') := by
  intro host job s
  have hd : s.disk.LinkFree := by decide +kernel
  have hsucceeds : ((run host {} job).runFrom s).1.toOption.any Outcome.succeeded = true := by
    decide +kernel
  have hresolves : ((Sources.resolve host s.disk [] none).runFrom {}).1.toOption.isSome = true := by
    decide +kernel
  rcases hrun : (run host {} job).runFrom s with ⟨f | o, s'⟩
  · simp [hrun, Except.toOption] at hsucceeds
  · rcases hresolve : (Sources.resolve host s.disk [] none).runFrom {} with ⟨f | y, t'⟩
    · simp [hresolve, Except.toOption] at hresolves
    · have ho : o.status = .succeeded := by
        simpa [hrun, Except.toOption, Outcome.succeeded] using hsucceeds
      obtain ⟨hfiles, hagain⟩ := inputs_survive_run hd hrun
      have hclassify : Sources.classify host s.disk [] none = .ok (.directory (.ofText "/w")) := by
        decide +kernel
      have hnot := Sources.not_outgrown (e := s'.disk) hclassify (by decide +kernel)
      refine ⟨o, s', y, t', rfl, ho, ?_, rfl, (hagain _ _ _ _ _ hresolve (.inl ⟨y, rfl⟩)).1 hnot⟩
      rw [hfiles _ (.inl (by decide +kernel))]
      decide +kernel

/-- A build after which its own directory cannot be scanned any more, although it could before. -/
theorem outgrown_directory_fails : deepDisk.LinkFree ∧ ∃ x s' target t,
    (run rootHost {} deepJob).runFrom { disk := deepDisk } = (x, s')
      ∧ (Sources.resolve rootHost deepDisk deepJob.paths none).runFrom {} = (.ok target, t)
      ∧ (Sources.resolve rootHost s'.disk deepJob.paths none).runFrom {}
        = (.error (.system .nameTooLong), {}) := by
  refine ⟨linkFree_deepDisk, ?_⟩
  obtain ⟨target, hresolve⟩ := exists_resolve_deepJob
  rcases hrun : (run rootHost {} deepJob).runFrom { disk := deepDisk } with ⟨x, s'⟩
  have hkept := inputsKept_run (s := { disk := deepDisk }) linkFree_deepDisk hrun
  have hagain := Sources.resolve_again hkept linkFree_deepDisk (hresolve {}) (.inl ⟨target, rfl⟩)
  exact ⟨x, s', target, _, rfl, hresolve {}, hagain.2 (outgrown_deepJob hrun)⟩

end Build

end ContractBuild
