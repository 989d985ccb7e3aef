import ContractBuild.Proofs.Build.Endings
import ContractBuild.Proofs.Build.Steady

/-!
# The calls of an engine

A compilation either is a misuse, which calls no engine, or makes a single call and passes on what
the engine answers (`Compilation.Misused`, `Compilation.MakesCall`). Nothing else in a build calls
an engine: resolving and loading are silent, and what follows the answer only reports and writes
(`Running.CallsNone`). So a build makes one call exactly if its inputs resolve to a target and an
engine is loaded, and that call is the one for the target, with the options of the job
(`call_protocol`).
-/

namespace ContractBuild

/-! ## One compilation -/

namespace Compilation

variable {e : Engine} {r : Request} {input : Engine.Input} {options : Options} {c : Engine.Call}
variable {t : Trail}

/-- What becomes of a failure of the engine: that it is gone is a refusal, and every other failure
stays what it is. -/
def passedOn : Failure → Failure
  | .foreign x => if x.isUnavailable then .refused unavailable else .foreign x
  | f => f

/-- A compilation makes the call `c` and no other, and passes on the answer. -/
structure MakesCall (e : Engine) (r : Request) (options : Options) (c : Engine.Call) (t : Trail) :
    Prop where
  calls : ((run e r options).runFrom t).2.calls = t.calls ++ [c]
  result : ((run e r options).runFrom t).1 = (e.compile c).mapError passedOn

/-- A compilation is a misuse and makes no call. -/
structure Misused (e : Engine) (r : Request) (options : Options) (m : Misuse) (t : Trail) :
    Prop where
  calls : ((run e r options).runFrom t).2.calls = t.calls
  result : ((run e r options).runFrom t).1 = .error (.misuse m)

theorem callEngine_spec (e : Engine) (c : Engine.Call) (t : Trail) :
    ((callEngine e c).runFrom t).1 = (e.compile c).mapError passedOn
      ∧ ((callEngine e c).runFrom t).2.calls = t.calls ++ [c] := by
  rw [runFrom_callEngine]
  cases hcall : e.compile c with
  | ok r => exact ⟨rfl, rfl⟩
  | error f =>
    cases f with
    | foreign x =>
      cases hx : x.isUnavailable with
      | true => simp [passedOn, hx, Attempt.calls_noted, calledTrail]
      | false => simp [passedOn, hx, calledTrail]
    | _ => exact ⟨rfl, rfl⟩

theorem makesCall_of_input (h : r.input? = .ok input) :
    MakesCall e r options ⟨input, options⟩ t := by
  obtain ⟨hresult, hcalls⟩ := callEngine_spec e ⟨input, options⟩
    { t with log := t.log ++ [startedRecord e r options] }
  rcases hanswer : (callEngine e ⟨input, options⟩).runFrom
    { t with log := t.log ++ [startedRecord e r options] } with ⟨x, u⟩
  rw [hanswer] at hresult hcalls
  have hrun : ((run e r options).runFrom t).1 = x
      ∧ ((run e r options).runFrom t).2.calls = u.calls := by
    rw [run_of_input h, Attempt.runFrom_bind, Attempt.runFrom_record]
    simp only [Attempt.runFrom_bind, hanswer]
    cases x with
    | ok c => exact ⟨rfl, rfl⟩
    | error f => exact ⟨rfl, rfl⟩
  exact ⟨hrun.2.trans hcalls, hrun.1.trans hresult⟩

theorem makesCall_target (target : Target) :
    MakesCall e (.mode (.target target)) options (call target options) t := by
  cases target with
  | project p => exact makesCall_of_input rfl
  | sources s => exact makesCall_of_input rfl

end Compilation

/-! ## The rest of a build -/

namespace Running

variable {α β : Type} {r : Running α} {f : α → Running β}

/-- A run in which no engine is called. -/
def CallsNone (r : Running α) : Prop := ∀ s, (r.runFrom s).2.trail.calls = s.trail.calls

theorem callsNone_pure (a : α) : CallsNone (pure a : Running α) := fun _ => rfl

theorem callsNone_fail (f : Failure) : CallsNone (fail f : Running α) := fun _ => rfl

theorem callsNone_get : CallsNone (get : Running Run) := fun _ => rfl

theorem callsNone_setDisk (g : Run → Disk) :
    CallsNone (modify fun s => { s with disk := g s } : Running PUnit) := fun _ => rfl

theorem callsNone_writeLine (channel : Channel) (text : String) :
    CallsNone (writeLine channel text) := fun _ => rfl

theorem callsNone_attempt {a : Attempt α} (h : ∀ t, (a.runFrom t).2.calls = t.calls) :
    CallsNone (attempt a) := fun s => h s.trail

theorem callsNone_record (x : Log.Record) : CallsNone (record x) :=
  callsNone_attempt (Attempt.silent_record x).calls_eq

theorem callsNone_refuse (x : Refusal) (details : String) :
    CallsNone (refuse x details : Running α) := by
  intro s
  rw [runFrom_refuse]
  exact Attempt.calls_noted s.trail x details

theorem CallsNone.calls_eq {x : Except Failure α} {s s' : Run} (h : CallsNone r)
    (hrun : r.runFrom s = (x, s')) : s'.trail.calls = s.trail.calls := by
  have hs := h s
  rwa [hrun] at hs

theorem CallsNone.bind (h : CallsNone r) (hf : ∀ a, CallsNone (f a)) : CallsNone (r >>= f) := by
  intro s
  have hr := h s
  rw [runFrom_bind]
  rcases hrun : r.runFrom s with ⟨e | a, s₁⟩
  · rw [hrun] at hr
    exact hr
  · rw [hrun] at hr
    exact (hf a s₁).trans hr

end Running

namespace Artifact

open Running (CallsNone)

variable (host : Host) (r : Compiled) (l : Layout)

theorem callsNone_writeOne (a : Artifact) : CallsNone (writeOne host r l a) := by
  refine (Running.callsNone_attempt fun _ => rfl).bind fun d => ?_
  refine (Running.callsNone_attempt fun _ => rfl).bind fun c => ?_
  refine Running.callsNone_get.bind fun s => ?_
  refine (Running.callsNone_setDisk _).bind fun _ => ?_
  split
  next => exact (Running.callsNone_writeLine _ _).bind fun _ => Running.callsNone_pure _
  next => exact (Running.callsNone_record _).bind fun _ => Running.callsNone_refuse _ _
  next => exact Running.callsNone_fail _

theorem callsNone_writeAll (as : List Artifact) : CallsNone (writeAll host r l as) := by
  induction as with
  | nil => exact Running.callsNone_pure _
  | cons a as ih =>
    exact (callsNone_writeOne host r l a).bind fun _ => ih.bind fun _ => Running.callsNone_pure _

theorem callsNone_prepareFolder (folder : Path) : CallsNone (prepareFolder host folder) := by
  refine Running.callsNone_get.bind fun s => ?_
  refine (Running.callsNone_setDisk _).bind fun _ => ?_
  split
  next => exact Running.callsNone_pure _
  next => exact Running.callsNone_fail _
  next => exact Running.callsNone_refuse _ _

theorem callsNone_write (options : Options) (fallback : Path) (name : Value) :
    CallsNone (write host r options fallback name) := by
  unfold write
  split
  next => exact Running.callsNone_fail _
  next =>
    split
    next => exact Running.callsNone_fail _
    next =>
      refine (callsNone_prepareFolder host _).bind fun _ => ?_
      split
      next => exact Running.callsNone_fail _
      next l _ =>
        refine (callsNone_writeAll host r l _).bind fun files => ?_
        refine (Running.callsNone_writeLine _ _).bind fun _ => ?_
        exact (Running.callsNone_record _).bind fun _ => Running.callsNone_pure _

end Artifact

namespace Build

open Running (CallsNone)

variable {host : Host} {registry : Engine.Registry} {job : Job} {s s' : Run}
variable {target : Target} {e : Engine} {t : Trail}

theorem callsNone_conclude (x : Refusal) (ds : List Diagnostic) : CallsNone (conclude x ds) := by
  intro s
  rw [runFrom_conclude]
  split
  next => rfl
  next => rfl

theorem callsNone_deliver (r : Compiled) : CallsNone (deliver host job target r) := by
  intro s
  rw [runFrom_deliver]
  split
  next => rfl
  next =>
    split
    next => rfl
    next options _ => exact Artifact.callsNone_write host r options _ _ s

/-- All calls of a build are made while its target is compiled. -/
theorem calls_run (host : Host) (registry : Engine.Registry) (job : Job) (s : Run) :
    ((run host registry job).runFrom s).2.trail.calls
      = ((compile host registry s.disk job).runFrom s.trail).2.calls := by
  rcases hrun : (run host registry job).runFrom s with ⟨x, s'⟩
  cases run_iff.1 hrun with
  | refused hcompile hend =>
    rw [hcompile]
    exact (callsNone_conclude _ _).calls_eq hend
  | broken hcompile => rw [hcompile]
  | refusedLate hcompile hdeliver hend =>
    rw [hcompile]
    exact ((callsNone_conclude _ _).calls_eq hend).trans ((callsNone_deliver _).calls_eq hdeliver)
  | brokenLate hcompile hdeliver =>
    rw [hcompile]
    exact (callsNone_deliver _).calls_eq hdeliver
  | delivered hcompile hdeliver =>
    rw [hcompile]
    exact (callsNone_deliver _).calls_eq hdeliver

/-- With a target and an engine there is one call. -/
theorem calls_compile_of_loads (h : Loads host registry job s target e t) :
    ((compile host registry s.disk job).runFrom s.trail).2.calls =
      s.trail.calls ++ [Compilation.call target job.options] := by
  obtain ⟨t₁, hresolve, hload⟩ := h
  have hresolved := (Sources.silent_resolve host s.disk job.paths job.cwd).calls_eq s.trail
  have hloaded := (Engine.silent_ofSource registry job.engine).calls_eq t₁
  have hcalls : ((Compilation.run e (.mode (.target target)) job.options).runFrom t).2.calls
      = t.calls ++ [Compilation.call target job.options] :=
    (Compilation.makesCall_target target).calls
  rw [hresolve] at hresolved
  rw [hload] at hloaded
  rw [← hresolved, ← hloaded, ← hcalls]
  simp only [compile, Attempt.runFrom_bind, hresolve, hload]
  rcases (Compilation.run e (.mode (.target target)) job.options).runFrom t with ⟨f | r, u⟩
  · rfl
  · rfl

/-- Without a target or an engine there is none. -/
theorem calls_compile_of_not_loads (h : ¬ ∃ target e t, Loads host registry job s target e t) :
    ((compile host registry s.disk job).runFrom s.trail).2.calls = s.trail.calls := by
  have hresolved := (Sources.silent_resolve host s.disk job.paths job.cwd).calls_eq s.trail
  simp only [compile, Attempt.runFrom_bind]
  rcases hresolve : (Sources.resolve host s.disk job.paths job.cwd).runFrom s.trail
    with ⟨f | target, t₁⟩
  · rw [hresolve] at hresolved
    exact hresolved
  · have hloaded := (Engine.silent_ofSource registry job.engine).calls_eq t₁
    rw [hresolve] at hresolved
    rcases hload : (Engine.ofSource registry job.engine).runFrom t₁ with ⟨f | e, t₂⟩
    · rw [hload] at hloaded
      simp only [hload]
      exact hloaded.trans hresolved
    · exact absurd ⟨target, e, t₂, t₁, hresolve, hload⟩ h

/-- A build whose inputs do not resolve takes no engine from anywhere. -/
theorem run_of_unresolved {f : Failure}
    (h : (Sources.resolve host s.disk job.paths job.cwd).runFrom s.trail = (.error f, t))
    (registry' : Engine.Registry) (source : Engine.Source) :
    (run host registry' { job with engine := source }).runFrom s
      = (run host registry job).runFrom s := by
  have hcompile : ∀ registry source,
      (compile host registry s.disk { job with engine := source }).runFrom s.trail
        = (.error f, t) := by
    intro registry source
    exact compile_eq_error_iff.2 (.inl h)
  have hhere := hcompile registry job.engine
  rw [runFrom_run, runFrom_run, hcompile]
  simp only [hhere]
  cases f with
  | refused x => rfl
  | _ => rfl

/-- The protocol of calls: a build makes one call if its inputs resolve and an engine is loaded, the
one for the target with the options of the job, and otherwise none; it takes no engine if its inputs
do not resolve. And a compilation of anything makes one call and passes on the answer, or none for
what is no target or text. -/
theorem call_protocol :
    (∀ host registry job s,
      (∀ target e t, Loads host registry job s target e t →
        ((run host registry job).runFrom s).2.trail.calls
          = s.trail.calls ++ [Compilation.call target job.options])
      ∧ ((¬ ∃ target e t, Loads host registry job s target e t) →
        ((run host registry job).runFrom s).2.trail.calls = s.trail.calls)
      ∧ ∀ f t, (Sources.resolve host s.disk job.paths job.cwd).runFrom s.trail = (.error f, t) →
        ∀ registry' source, (run host registry' { job with engine := source }).runFrom s
          = (run host registry job).runFrom s)
    ∧ ∀ e options t,
      (∀ p, Compilation.Misused e (.mode (.directory p)) options .directoryMode t)
      ∧ (∀ kind typeName,
        Compilation.Misused e (.unknown kind typeName) options (.unknownMode typeName) t)
      ∧ (∀ target, Compilation.MakesCall e (.mode (.target target)) options
        (Compilation.call target options) t)
      ∧ ∀ text, Compilation.MakesCall e (.mode (.inline text)) options ⟨.text text, options⟩ t := by
  refine ⟨fun host registry job s => ⟨?_, ?_, ?_⟩, fun e options t => ⟨?_, ?_, ?_, ?_⟩⟩
  · intro target e t h
    rw [calls_run]
    exact calls_compile_of_loads h
  · intro h
    rw [calls_run]
    exact calls_compile_of_not_loads h
  · intro f t h registry' source
    exact run_of_unresolved h registry' source
  · intro p
    exact ⟨rfl, rfl⟩
  · intro kind typeName
    exact ⟨rfl, rfl⟩
  · intro target
    exact Compilation.makesCall_target target
  · intro text
    exact Compilation.makesCall_of_input rfl

/-- A source file is compiled in one call, with the relative output directory that the job asks for.
Beside it a text file does not resolve, and no engine is taken for it. -/
theorem source_called_once :
    let host : Host := { cwd := ["w"], homes := ⟨"/", []⟩ }
    let c : Canned := {}
    let options : Options := { outputDirectory := some (.ofText "out") }
    let job : Job := { paths := ["Token.cs"], options, engine := .given c.engine }
    let other : Job := { job with paths := ["Token.txt"] }
    let s : Run := { disk := (Disk.empty.put ["w"] .folder).put ["w", "Token.cs"] (.file []) }
    (∃ target t, Loads host {} job s target c.engine t)
      ∧ ((run host {} job).runFrom s).2.trail.calls
        = [⟨.sources [.ofText "/w/Token.cs"], options⟩]
      ∧ (∃ f t, (Sources.resolve host s.disk other.paths other.cwd).runFrom s.trail = (.error f, t))
      ∧ ((run host {} other).runFrom s).2.trail.calls = []
      ∧ (run host {} { other with engine := .reference none }).runFrom s
        = (run host {} other).runFrom s := by
  intro host c options job other s
  obtain ⟨hbuild, -⟩ := call_protocol
  have hsources : ((Sources.resolve host s.disk job.paths job.cwd).runFrom s.trail).1.toOption
      = some (.sources ⟨[.ofText "/w/Token.cs"], by simp, .ofText "/w"⟩) := by decide +kernel
  have hnone : ((Sources.resolve host s.disk other.paths other.cwd).runFrom s.trail).1.toOption
      = none := by decide +kernel
  rcases hresolve : (Sources.resolve host s.disk job.paths job.cwd).runFrom s.trail
    with ⟨f | target, t⟩
  · simp [hresolve, Except.toOption] at hsources
  obtain rfl : target = _ := by simpa [hresolve, Except.toOption] using hsources
  rcases hrefused : (Sources.resolve host s.disk other.paths other.cwd).runFrom s.trail
    with ⟨f | target, u⟩
  · have hloads : Loads host {} job s _ c.engine t := ⟨t, hresolve, rfl⟩
    refine ⟨⟨_, t, hloads⟩, (hbuild host {} job s).1 _ _ _ hloads, ⟨f, u, rfl⟩, ?_, ?_⟩
    · refine (hbuild host {} other s).2.1 fun h => ?_
      obtain ⟨target, e, t', t₁, htarget, -⟩ := h
      rw [hrefused] at htarget
      exact absurd (congrArg Prod.fst htarget) (by simp)
    · exact (hbuild host {} other s).2.2 f u hrefused {} (.reference none)
  · simp [hrefused, Except.toOption] at hnone

end Build

end ContractBuild
