import ContractBuild.Proofs.Build.Stages
import ContractBuild.Proofs.Compilation
import ContractBuild.Proofs.Sources.Refusals

/-!
# How a build ends

`Ending` lists the ways in which a build can return, one for each stage that may refuse to go on
and one for success, with the outcome of each. `run_returns_iff` says that a build returns an
outcome exactly if it ends so: the first stage that refuses decides the status and the message,
and the diagnostics are part of the outcome as soon as the engine has answered.

From left to right a refusal has to be found among the stages that could have made it
(`ending_of_compile`, `ending_of_deliver`); its status decides between the endings of one stage.
From right to left each ending is run (`Ending.returns`).

The one condition is that engines and modules raise no refusals of the build themselves. Without
it a refusal would not tell at which stage it was made: an engine may raise that of a missing
source.
-/

namespace ContractBuild

namespace Artifact

variable {host : Host} {r : Compiled} {options : Options} {fallback : Path} {name : Value}
variable {s : Run}

/-- The folder of the artifacts cannot be created. -/
def FolderFails (host : Host) (options : Options) (fallback : Path) (s : Run) : Prop :=
  ∃ n e, s.disk.ensureFolders host.cwd (options.outputFolder fallback) = (.error (.errno n), e)

/-- The file of an artifact cannot be written, because it cannot be opened or because its writing is
broken off: everything before it in the plan was written, and its content was produced. -/
def FileFails (host : Host) (r : Compiled) (options : Options) (s : Run) (l : Layout)
    (a : Artifact) : Prop :=
  ∃ s₁ done rest ps s₂ d c n,
    (prepareFolder host l.folder).runFrom s = (.ok (), s₁)
      ∧ plan options = done ++ a :: rest
      ∧ (writeAll host r l done).runFrom s₁ = (.ok ps, s₂)
      ∧ r.produce a = .ok d ∧ content l a d = .ok c
      ∧ (s₂.disk.fill host.cwd (l.path a) c.bytes (host.cutoff? (l.path a) c.bytes)).1
        = .error (.errno n)

/-- What a writing refuses, if its producers refuse nothing. -/
theorem write_refuses_iff (hr : r.NoRefusals) {x : Refusal} :
    (∃ s', (write host r options fallback name).runFrom s = (.error (.refused x), s')) ↔
      r.success = true ∧ ∃ chosen, fileName? name r options = some chosen
        ∧ (FolderFails host options fallback s
            ∧ x = .unwritable (options.outputFolder fallback).toText
          ∨ ∃ l a, Layout.ofName (options.outputFolder fallback) chosen = .valid l
            ∧ FileFails host r options s l a ∧ x = refusal l a) := by
  constructor
  · rintro ⟨s', h⟩
    cases write_iff.1 h with
    | @noFolder chosen _ _ hsuccess hname hfolder =>
      obtain ⟨n, e, hmade, rfl, -⟩ := prepareFolder_eq_refused_iff.1 hfolder
      exact ⟨hsuccess, chosen, hname, .inl ⟨⟨n, e, hmade⟩, rfl⟩⟩
    | @stopped chosen l _ s₁ _ hsuccess hname hfolder hl hall =>
      obtain ⟨done, a, rest, ps, s₂, hplan, hdone, hone⟩ := writeAll_eq_error_iff.1 hall
      obtain ⟨d, c, n, e, hd, hc, hstore, rfl, -⟩ := (writeOne_eq_refused_iff (hr a x)).1 hone
      obtain ⟨n', hfill⟩ := store_refused_iff.1 ⟨n, e, hstore⟩
      rw [← (ofName_eq_valid hl).1] at hfolder
      exact ⟨hsuccess, chosen, hname, .inr ⟨l, a, hl,
        ⟨s₁, done, rest, ps, s₂, d, c, n', hfolder, hplan, hdone, hd, hc, hfill⟩, rfl⟩⟩
  · rintro ⟨hsuccess, chosen, hname, ⟨⟨n, e, hmade⟩, rfl⟩ | ⟨l, a, hl, hfails, rfl⟩⟩
    · have hfolder := prepareFolder_eq_refused_iff.2 ⟨n, e, hmade, rfl, rfl⟩
      exact ⟨_, write_iff.2 (.noFolder hsuccess hname hfolder)⟩
    · obtain ⟨s₁, done, rest, ps, s₂, d, c, n, hfolder, hplan, hdone, hd, hc, hfill⟩ := hfails
      obtain ⟨n', e, hstore⟩ := store_refused_iff.2 ⟨n, hfill⟩
      rw [(ofName_eq_valid hl).1] at hfolder
      have hone := (writeOne_eq_refused_iff (hr a _)).2 ⟨d, c, n', e, hd, hc, hstore, rfl, rfl⟩
      have hall := writeAll_eq_error_iff.2 ⟨done, a, rest, ps, s₂, hplan, hdone, hone⟩
      exact ⟨_, write_iff.2 (.stopped hsuccess hname hfolder hl hall)⟩

end Artifact

namespace Build

variable {host : Host} {registry : Engine.Registry} {job : Job} {s : Run} {o : Outcome}
variable {target : Target} {e : Engine} {r : Compiled} {x : Refusal} {t : Trail}

/-! ## Up to the answer of the engine -/

/-- The inputs resolve to a target and an engine is loaded. -/
def Loads (host : Host) (registry : Engine.Registry) (job : Job) (s : Run) (target : Target)
    (e : Engine) (t : Trail) : Prop :=
  ∃ t₁, (Sources.resolve host s.disk job.paths job.cwd).runFrom s.trail = (.ok target, t₁)
    ∧ (Engine.ofSource registry job.engine).runFrom t₁ = (.ok e, t)

/-- The loaded engine answers, and what it has to say is reported. -/
def Answers (host : Host) (registry : Engine.Registry) (job : Job) (s : Run) (target : Target)
    (r : Compiled) (s₁ : Run) : Prop :=
  ∃ e t, Loads host registry job s target e t
    ∧ e.compile (Compilation.call target job.options) = .ok r
    ∧ s₁ = reported s (Compilation.answeredTrail e target job.options r t) r.diagnostics

/-- A loaded engine raises no refusals, if none of those that can be loaded does. -/
theorem noRefusals_of_loads (hregistry : registry.NoRefusals) (hengine : job.engine.NoRefusals)
    (h : Loads host registry job s target e t) : e.NoRefusals := by
  obtain ⟨t₁, -, hload⟩ := h
  exact (Engine.ends_ofSource hregistry hengine).of_ok hload

/-- The engine answers exactly if a target is compiled. -/
theorem answers_iff {s₁ : Run} :
    Answers host registry job s target r s₁ ↔
      ∃ t, (compile host registry s.disk job).runFrom s.trail = (.ok (target, r), t)
        ∧ s₁ = reported s t r.diagnostics := by
  constructor
  · rintro ⟨e, t₂, ⟨t₁, hresolve, hload⟩, hcall, rfl⟩
    exact ⟨_, compile_eq_ok_iff.2 ⟨t₁, e, t₂, hresolve, hload,
      Compilation.run_eq_ok_iff.2 ⟨hcall, rfl⟩⟩, rfl⟩
  · rintro ⟨t, h, rfl⟩
    obtain ⟨t₁, e, t₂, hresolve, hload, hrun⟩ := compile_eq_ok_iff.1 h
    obtain ⟨hcall, rfl⟩ := Compilation.run_eq_ok_iff.1 hrun
    exact ⟨e, t₂, ⟨t₁, hresolve, hload⟩, hcall, rfl⟩

/-- The answer of an engine without refusals has producers without refusals. -/
theorem noRefusals_of_answers (hregistry : registry.NoRefusals) (hengine : job.engine.NoRefusals)
    {s₁ : Run} (h : Answers host registry job s target r s₁) : r.NoRefusals := by
  obtain ⟨e, t, hloads, hcall, -⟩ := h
  exact (noRefusals_of_loads hregistry hengine hloads).result _ _ hcall

/-! ## From the answer of the engine on -/

theorem ends_anchorOutput {P : Refusal → Prop} (host : Host) (disk : Disk) (options : Options)
    (cwd : Option String) : Ends P (fun _ => True) (anchorOutput host disk options cwd) := by
  unfold anchorOutput
  split
  next => trivial
  next =>
    exact (Sources.ends_base _).bind fun _ _ =>
      (Sources.ends_absolute _ _).bind fun _ _ => trivial

theorem deliver_refuses_iff :
    (∃ s', (deliver host job target r).runFrom s = (.error (.refused x), s')) ↔
      r.success = false ∧ x = .failedCompilation
        ∨ r.success = true ∧ ∃ options,
          anchorOutput host s.disk job.options job.cwd = .ok options
          ∧ ∃ s', (Artifact.write host r options target.folder
            (Compilation.effectiveName r.contractName job.options (.target target))).runFrom s
            = (.error (.refused x), s') := by
  have hnever := ends_anchorOutput (P := fun _ => False) host s.disk job.options job.cwd
  rw [runFrom_deliver]
  cases r.success with
  | false => simp [eq_comm]
  | true =>
    simp only [Bool.not_true, Bool.false_eq_true, if_false]
    cases hanchor : anchorOutput host s.disk job.options job.cwd with
    | ok options => simp
    | error f =>
      rw [hanchor] at hnever
      cases f with
      | refused y => exact absurd hnever id
      | _ => simp

/-! ## Endings -/

/-- The name under which the artifacts of a build are written. -/
def writtenName (job : Job) (target : Target) (r : Compiled) : Value :=
  Compilation.effectiveName r.contractName job.options (.target target)

/-- The ways in which a build returns, each with its outcome. -/
inductive Ending (host : Host) (registry : Engine.Registry) (job : Job) (s : Run) : Outcome → Prop
  /-- An input is refused. -/
  | badInput (message : String) (path : Option String) (t : Trail)
    (hresolve : (Sources.resolve host s.disk job.paths job.cwd).runFrom s.trail
      = (.error (.refused (.input message path)), t)) :
    Ending host registry job s { status := .invalidInput, message }
  /-- A directory holds nothing to build. -/
  | nothingFound (directory : String) (t : Trail)
    (hresolve : (Sources.resolve host s.disk job.paths job.cwd).runFrom s.trail
      = (.error (.refused (.noSource directory)), t)) :
    Ending host registry job s
      { status := .noSource, message := "No .cs file is found in \"" ++ directory ++ "\"." }
  /-- No engine can be loaded. -/
  | noEngine (target : Target) (message : String) (t₁ t : Trail)
    (hresolve : (Sources.resolve host s.disk job.paths job.cwd).runFrom s.trail = (.ok target, t₁))
    (hload : (Engine.ofSource registry job.engine).runFrom t₁
      = (.error (.refused (.engine message)), t)) :
    Ending host registry job s { status := .engineUnavailable, message }
  /-- The engine turns out to be gone when it is called. -/
  | engineGone (target : Target) (e : Engine) (t : Trail) (y : Foreign)
    (hloads : Loads host registry job s target e t)
    (hcall : e.compile (Compilation.call target job.options) = .error (.foreign y))
    (hgone : y.isUnavailable = true) :
    Ending host registry job s
      { status := .engineUnavailable, message := "Compilation engine is unavailable" }
  /-- The engine answers that the compilation failed. -/
  | failed (target : Target) (r : Compiled) (s₁ : Run)
    (hanswers : Answers host registry job s target r s₁)
    (hfailed : r.success = false) :
    Ending host registry job s
      { status := .compilationFailed, message := "Compilation failed."
        diagnostics := r.diagnostics }
  /-- The output folder cannot be created. -/
  | noFolder (target : Target) (r : Compiled) (s₁ : Run) (options : Options) (chosen : Value)
    (hanswers : Answers host registry job s target r s₁)
    (hsuccess : r.success = true)
    (hanchor : anchorOutput host s.disk job.options job.cwd = .ok options)
    (hname : Artifact.fileName? (writtenName job target r) r options = some chosen)
    (hfails : Artifact.FolderFails host options target.folder s₁) :
    Ending host registry job s
      { status := .ioFailure
        message := "Cannot write to: " ++ (options.outputFolder target.folder).toText
        diagnostics := r.diagnostics }
  /-- An artifact cannot be written. -/
  | unwritten (target : Target) (r : Compiled) (s₁ : Run) (options : Options) (chosen : Value)
    (l : Layout) (a : Artifact)
    (hanswers : Answers host registry job s target r s₁)
    (hsuccess : r.success = true)
    (hanchor : anchorOutput host s.disk job.options job.cwd = .ok options)
    (hname : Artifact.fileName? (writtenName job target r) r options = some chosen)
    (hl : Layout.ofName (options.outputFolder target.folder) chosen = .valid l)
    (hfails : Artifact.FileFails host r options s₁ l a) :
    Ending host registry job s
      { status := .ioFailure, message := "Cannot write to: " ++ (l.path a).toText
        diagnostics := r.diagnostics }
  /-- All artifacts are written. -/
  | delivered (target : Target) (r : Compiled) (s₁ s' : Run) (options : Options) (l : Layout)
    (hanswers : Answers host registry job s target r s₁)
    (hsuccess : r.success = true)
    (hanchor : anchorOutput host s.disk job.options job.cwd = .ok options)
    (hwrite : (Artifact.write host r options target.folder (writtenName job target r)).runFrom s₁
      = (.ok l, s')) :
    Ending host registry job s
      { status := .succeeded, layout := some l, diagnostics := r.diagnostics }

/-- A refusal before the answer of the engine is one of the first four endings. -/
theorem ending_of_compile (hregistry : registry.NoRefusals) (hengine : job.engine.NoRefusals)
    {status : Status}
    (hcompile : (compile host registry s.disk job).runFrom s.trail = (.error (.refused x), t))
    (hstatus : x.status? = some status) :
    Ending host registry job s (refusedOutcome status x []) := by
  rcases compile_eq_error_iff.1 hcompile with
    hresolve | ⟨target, t₁, hresolve, hload | ⟨e, t₂, hload, hrun⟩⟩
  · have hrefuses := (Sources.ends_resolve job.paths job.cwd).of_refused hresolve
    cases x with
    | input message path =>
      obtain rfl := Option.some.inj hstatus
      exact .badInput message path t hresolve
    | noSource directory =>
      obtain rfl := Option.some.inj hstatus
      exact .nothingFound directory t hresolve
    | _ => exact absurd hrefuses id
  · have hrefuses := (Engine.ends_ofSource hregistry hengine).of_refused hload
    cases x with
    | engine message =>
      obtain rfl := Option.some.inj hstatus
      exact .noEngine target message t₁ t hresolve hload
    | _ => exact absurd hrefuses id
  · -- the engine itself refuses nothing, so the only refusal left is that it is gone
    have hloads : Loads host registry job s target e t₂ := ⟨t₁, hresolve, hload⟩
    have he := noRefusals_of_loads hregistry hengine hloads
    obtain ⟨⟨y, hcall, hgone⟩, rfl⟩ := (Compilation.run_refuses_iff he).1 ⟨t, hrun⟩
    obtain rfl := Option.some.inj hstatus
    exact .engineGone target e t₂ y hloads hcall hgone

/-- A refusal after the answer of the engine is one of the next three. -/
theorem ending_of_deliver (hregistry : registry.NoRefusals) (hengine : job.engine.NoRefusals)
    {status : Status} {s₁ s₂ : Run} (hanswers : Answers host registry job s target r s₁)
    (hdeliver : (deliver host job target r).runFrom s₁ = (.error (.refused x), s₂))
    (hstatus : x.status? = some status) :
    Ending host registry job s (refusedOutcome status x r.diagnostics) := by
  have hr := noRefusals_of_answers hregistry hengine hanswers
  obtain ⟨t, -, hs₁⟩ := answers_iff.1 hanswers
  rcases deliver_refuses_iff.1 ⟨s₂, hdeliver⟩ with
    ⟨hfailed, rfl⟩ | ⟨hsuccess, options, hanchor, hwrite⟩
  · obtain rfl := Option.some.inj hstatus
    exact .failed target r s₁ hanswers hfailed
  · have hanchor : anchorOutput host s.disk job.options job.cwd = .ok options := by
      rwa [hs₁] at hanchor
    obtain ⟨-, chosen, hname, ⟨hfails, rfl⟩ | ⟨l, a, hl, hfails, rfl⟩⟩ :=
      (Artifact.write_refuses_iff hr).1 hwrite
    · obtain rfl := Option.some.inj hstatus
      exact .noFolder target r s₁ options chosen hanswers hsuccess hanchor hname hfails
    · obtain rfl := Option.some.inj hstatus
      exact .unwritten target r s₁ options chosen l a hanswers hsuccess hanchor hname hl hfails

/-- A refusal before the answer of the engine ends the build. -/
theorem returns_of_compile {status : Status}
    (hcompile : (compile host registry s.disk job).runFrom s.trail = (.error (.refused x), t))
    (hstatus : x.status? = some status) :
    ∃ s', (run host registry job).runFrom s = (.ok (refusedOutcome status x []), s') :=
  ⟨_, run_iff.2 (.refused hcompile (conclude_eq_ok_iff.2 ⟨status, hstatus, rfl, rfl⟩))⟩

/-- A refusal after the answer of the engine ends the build with what the engine had to say. -/
theorem returns_of_deliver {status : Status} {s₁ : Run}
    (hanswers : Answers host registry job s target r s₁)
    (hdeliver : ∃ s', (deliver host job target r).runFrom s₁ = (.error (.refused x), s'))
    (hstatus : x.status? = some status) :
    ∃ s', (run host registry job).runFrom s
      = (.ok (refusedOutcome status x r.diagnostics), s') := by
  obtain ⟨t, hcompile, rfl⟩ := answers_iff.1 hanswers
  obtain ⟨s₂, hdeliver⟩ := hdeliver
  exact ⟨_, run_iff.2
    (.refusedLate hcompile hdeliver (conclude_eq_ok_iff.2 ⟨status, hstatus, rfl, rfl⟩))⟩

/-- Whoever ends so returns so. -/
theorem Ending.returns (hregistry : registry.NoRefusals) (hengine : job.engine.NoRefusals)
    (h : Ending host registry job s o) : ∃ s', (run host registry job).runFrom s = (.ok o, s') := by
  cases h with
  | badInput message path t hresolve =>
    exact returns_of_compile (compile_eq_error_iff.2 (.inl hresolve)) rfl
  | nothingFound directory t hresolve =>
    exact returns_of_compile (compile_eq_error_iff.2 (.inl hresolve)) rfl
  | noEngine target message t₁ t hresolve hload =>
    exact returns_of_compile
      (compile_eq_error_iff.2 (.inr ⟨target, t₁, hresolve, .inl hload⟩)) rfl
  | engineGone target e t y hloads hcall hgone =>
    have he := noRefusals_of_loads hregistry hengine hloads
    obtain ⟨t₁, hresolve, hload⟩ := hloads
    obtain ⟨t', hrun⟩ := (Compilation.run_refuses_iff he).2 ⟨⟨y, hcall, hgone⟩, rfl⟩
    exact returns_of_compile
      (compile_eq_error_iff.2 (.inr ⟨target, t₁, hresolve, .inr ⟨e, t, hload, hrun⟩⟩)) rfl
  | failed target r s₁ hanswers hfailed =>
    exact returns_of_deliver hanswers (deliver_refuses_iff.2 (.inl ⟨hfailed, rfl⟩)) rfl
  | noFolder target r s₁ options chosen hanswers hsuccess hanchor hname hfails =>
    have hr := noRefusals_of_answers hregistry hengine hanswers
    have hwrite := (Artifact.write_refuses_iff hr).2
      ⟨hsuccess, chosen, hname, .inl ⟨hfails, rfl⟩⟩
    obtain ⟨t, -, rfl⟩ := answers_iff.1 hanswers
    exact returns_of_deliver hanswers
      (deliver_refuses_iff.2 (.inr ⟨hsuccess, options, hanchor, hwrite⟩)) rfl
  | unwritten target r s₁ options chosen l a hanswers hsuccess hanchor hname hl hfails =>
    have hr := noRefusals_of_answers hregistry hengine hanswers
    have hwrite := (Artifact.write_refuses_iff hr).2
      ⟨hsuccess, chosen, hname, .inr ⟨l, a, hl, hfails, rfl⟩⟩
    obtain ⟨t, -, rfl⟩ := answers_iff.1 hanswers
    exact returns_of_deliver hanswers
      (deliver_refuses_iff.2 (.inr ⟨hsuccess, options, hanchor, hwrite⟩)) rfl
  | delivered target r s₁ s' options l hanswers hsuccess hanchor hwrite =>
    obtain ⟨t, hcompile, rfl⟩ := answers_iff.1 hanswers
    have hdeliver : (deliver host job target r).runFrom (reported s t r.diagnostics)
        = (.ok l, s') :=
      deliver_eq_ok_iff.2 ⟨hsuccess, options, hanchor, hwrite⟩
    exact ⟨_, run_iff.2 (.delivered hcompile hdeliver)⟩

/-- There is a layout exactly after a success, and a message exactly after a refusal. -/
theorem Ending.layout_message (hregistry : registry.NoRefusals) (hengine : job.engine.NoRefusals)
    (h : Ending host registry job s o) :
    (o.layout.isSome = true ↔ o.status = .succeeded)
      ∧ (o.message = "" ↔ o.status = .succeeded) := by
  cases h with
  | badInput message path t hresolve =>
    have hmessage : message ≠ "" := (Sources.ends_resolve job.paths job.cwd).of_refused hresolve
    simp [hmessage]
  | noEngine target message t₁ t hresolve hload =>
    have hmessage : message ≠ "" := (Engine.ends_ofSource hregistry hengine).of_refused hload
    simp [hmessage]
  | _ => simp

/-- A build returns an outcome exactly if it ends so. -/
theorem run_returns_iff (hregistry : registry.NoRefusals) (hengine : job.engine.NoRefusals) :
    ((∃ s', (run host registry job).runFrom s = (.ok o, s')) ↔ Ending host registry job s o)
      ∧ ∀ s', (run host registry job).runFrom s = (.ok o, s') →
        (o.layout.isSome = true ↔ o.status = .succeeded)
          ∧ (o.message = "" ↔ o.status = .succeeded) := by
  have hending : ∀ s', (run host registry job).runFrom s = (.ok o, s') →
      Ending host registry job s o := by
    intro s' h
    cases run_iff.1 h with
    | refused hcompile hend =>
      obtain ⟨status, hstatus, rfl, -⟩ := conclude_eq_ok_iff.1 hend
      exact ending_of_compile hregistry hengine hcompile hstatus
    | @refusedLate _ _ t _ _ _ _ hcompile hdeliver hend =>
      obtain ⟨status, hstatus, rfl, -⟩ := conclude_eq_ok_iff.1 hend
      have hanswers := answers_iff.2 ⟨t, hcompile, rfl⟩
      exact ending_of_deliver hregistry hengine hanswers hdeliver hstatus
    | @delivered target r t l s₁ hcompile hdeliver =>
      have hanswers := answers_iff.2 ⟨t, hcompile, rfl⟩
      obtain ⟨hsuccess, options, hanchor, hwrite⟩ := deliver_eq_ok_iff.1 hdeliver
      exact .delivered target r _ s₁ options l hanswers hsuccess hanchor hwrite
  refine ⟨⟨fun ⟨s', h⟩ => hending s' h, fun h => h.returns hregistry hengine⟩, fun s' h => ?_⟩
  exact (hending s' h).layout_message hregistry hengine

/-- A file stands where the output folder belongs. The engine had a warning, which stays part of the
outcome. -/
theorem blocked_folder_ends_build :
    let host : Host := { cwd := ["w"], homes := ⟨"/", []⟩ }
    let ds : List Diagnostic := [{ severity := .warning, message := "unused" }]
    let engine : Engine := ({ diagnostics := ds } : Canned).engine
    let job : Job := { paths := ["Token.cs"], engine := .given engine }
    let disk : Disk := (Disk.empty.put ["w"] .folder).put ["w", "Token.cs"] (.file [])
    let s : Run := { disk := disk.put ["w", "bin"] (.file []) }
    let o : Outcome :=
      { status := .ioFailure
        message := "Cannot write to: /w/bin/sc"
        diagnostics := ds }
    Engine.Registry.NoRefusals {} ∧ job.engine.NoRefusals ∧ Ending host {} job s o := by
  intro host ds engine job disk s o
  have hregistry : Engine.Registry.NoRefusals {} := by simp [Engine.Registry.NoRefusals]
  have hengine : job.engine.NoRefusals :=
    Canned.noRefusals_engine (by simp) (by simp) (by simp)
  have hreturns : ((run host {} job).runFrom s).1 = .ok o := by decide +kernel
  exact ⟨hregistry, hengine, (run_returns_iff hregistry hengine).1.1 ⟨_, Prod.ext hreturns rfl⟩⟩

end Build

end ContractBuild
