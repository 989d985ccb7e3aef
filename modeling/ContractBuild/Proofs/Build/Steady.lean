import ContractBuild.Build.Basic
import ContractBuild.Proofs.Compilation
import ContractBuild.Proofs.Steady

/-!
# Compiling is steady

Up to the answer of the engine a build is an attempt, and every stage of it is steady: the same job
on the same disk comes to the same, whatever happened before, and no producer is called
(`steady_compile`). Of a loaded engine only its number may differ. Before the compilation itself no
engine is called either: resolving the inputs and loading the engine are silent.
-/

namespace ContractBuild

open Attempt (Silent Steady)

namespace Sources

variable (host : Host) (disk : Disk)

theorem silent_scan (directory : Path) : Silent id (scan host disk directory) := by
  refine (Attempt.silent_ofExcept _).bind fun ps => ?_
  cases ps with
  | nil =>
    simp only
    split
    next => exact Attempt.silent_refuse _ _
    next => exact Attempt.silent_pure _
  | cons p ps =>
    simp only
    split
    next => exact (Attempt.silent_record _).bind fun _ => Attempt.silent_pure _
    next => exact Attempt.silent_pure _

theorem silent_resolve (paths : List String) (cwd : Option String) :
    Silent id (resolve host disk paths cwd) := by
  have hrecord : ∀ t, Silent id (do Attempt.record (resolvedRecord t); return t) :=
    fun t => (Attempt.silent_record _).bind fun _ => Attempt.silent_pure _
  refine (Attempt.silent_ofExcept _).bind fun request => ?_
  cases request with
  | directory p => exact (silent_scan host disk p).bind hrecord
  | target t => exact hrecord t

end Sources

namespace Engine

variable (r : Registry) (reference : String)

theorem silent_resolveReference : Silent id (resolveReference r reference) := by
  unfold resolveReference
  split
  next => exact Attempt.silent_refuse _ _
  next =>
    split
    next => exact Attempt.silent_refuse _ _
    next =>
      split
      next =>
        split
        next => exact Attempt.silent_refuse _ _
        next => exact Attempt.silent_fail _
      next => exact Attempt.silent_fail _
      next =>
        split
        next => exact Attempt.silent_pure _
        next =>
          split
          next => exact Attempt.silent_refuse _ _
          next => exact Attempt.silent_fail _

/-- What was made before gives an object another number and nothing else. -/
theorem silent_obtain (moduleName attr : String) (a : Attribute) :
    Silent Prod.fst (obtain moduleName attr a) := by
  cases a with
  | object o => exact Attempt.silent_pure _
  | maker call =>
    cases call with
    | error f => exact ⟨.error f, {}, fun t => Prod.ext rfl (by simp; rfl), rfl, rfl⟩
    | ok o =>
      exact ⟨.ok o, { made := 1 }, fun t => Prod.ext rfl (by simp [Trail.extend]; rfl), rfl, rfl⟩

theorem silent_loadReference : Silent Loaded.engine (loadReference r reference) := by
  refine (silent_resolveReference r reference).bind fun ⟨moduleName, attr, a⟩ => ?_
  refine (silent_obtain moduleName attr a).bindView ?_ ?_
  · rintro ⟨o, identity⟩
    cases o with
    | engine e => exact (Attempt.silent_record _).bind fun _ => Attempt.silent_pure _
    | _ => exact Attempt.silent_refuse _ _
  · rintro ⟨o, identity⟩ ⟨_, identity'⟩ rfl t
    cases o <;> rfl

theorem silent_load (reference : Option String) : Silent Loaded.engine (load r reference) := by
  cases reference with
  | some reference => exact silent_loadReference r reference
  | none =>
    rw [load]
    split
    next => exact Attempt.silent_refuse _ _
    next => exact (Attempt.silent_record _).bind fun _ => silent_loadReference r _

/-- Every loading gives the same engine. -/
theorem silent_ofSource (source : Source) : Silent id (ofSource r source) := by
  cases source with
  | given e => exact Attempt.silent_pure e
  | reference reference =>
    refine (silent_load r reference).bindView (fun _ => Attempt.silent_pure _) ?_
    intro _ _ he t
    rw [he]

end Engine

namespace Compilation

theorem steady_callEngine (e : Engine) (c : Engine.Call) : Steady id (callEngine e c) := by
  refine (Attempt.steady_call e c).bind fun answer => ?_
  split
  next => exact (Attempt.silent_pure _).steady
  next =>
    split
    next => exact (Attempt.silent_refuse _ _).steady
    next => exact (Attempt.silent_fail _).steady
  next => exact (Attempt.silent_fail _).steady

theorem steady_run_of_input {r : Request} {input : Engine.Input} (h : r.input? = .ok input)
    (e : Engine) (options : Options) : Steady id (run e r options) := by
  rw [run_of_input h]
  exact (Attempt.silent_record _).steady.bind fun _ => (steady_callEngine _ _).bind fun r =>
    ((Attempt.silent_record _).bind fun _ => Attempt.silent_pure r).steady

theorem steady_run (e : Engine) (target : Target) (options : Options) :
    Steady id (run e (.mode (.target target)) options) := by
  cases target <;> exact steady_run_of_input rfl e options

end Compilation

/-- The same job on the same disk comes to the same, whatever happened before. -/
theorem Build.steady_compile (host : Host) (registry : Engine.Registry) (disk : Disk) (job : Job) :
    Steady id (compile host registry disk job) :=
  (Sources.silent_resolve host disk job.paths job.cwd).steady.bind fun target =>
    (Engine.silent_ofSource registry job.engine).steady.bind fun e =>
      (Compilation.steady_run e target job.options).bind fun r =>
        (Attempt.silent_pure (target, r)).steady

end ContractBuild
