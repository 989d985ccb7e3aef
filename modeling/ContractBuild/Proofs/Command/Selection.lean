import ContractBuild.Proofs.Build.Loaded
import ContractBuild.Proofs.Command.Request
import ContractBuild.Proofs.Engine.Default

/-!
# Which engine the command line selects

The engine of a compilation is named by the arguments, or else by the variable, or else it is the
default one. `Uses` says that a run uses the engine of a reference: it goes on as if that engine had
been given to the program, and fails as the loading does. `engine_selected` says which reference
that is. An empty name among the arguments counts as none, but an empty variable does so only if the
arguments name an engine: without one it is looked up as a reference, which no empty text is, and
the default engine is not reached (`empty_variable_hides_default`).
-/

namespace ContractBuild.Command

open Commanding
open Compile (nonempty?)

variable {context : Context} {disk : Disk} {args rest : List String} {as : Arguments Compile.Key}
variable {s s' : Session} {target : Target} {t t' : Trail} {j : Build.Job} {e : Engine}

/-- A context with an engine in the place of any that is named. -/
def Context.given (context : Context) (e : Engine) : Context :=
  { context with engine := some (.given e) }

namespace Program

/-! ## Given engines -/

/-- Ends of the program that differ at most in the log and in the number of objects made. -/
structure Alike (p q : Except Interruption Unit × Session) : Prop where
  ending : p.1 = q.1
  disk : p.2.disk = q.2.disk
  messages : p.2.messages = q.2.messages
  calls : p.2.trail.calls = q.2.trail.calls
  produced : p.2.trail.produced = q.2.trail.produced

theorem job_given {r : Compile.Request} (h : (Compile.job context r).runFrom s = (.ok j, s'))
    (e : Engine) :
    (Compile.job (context.given e) r).runFrom s = (.ok { j with engine := .given e }, s') := by
  obtain ⟨v, s₁, hsettings, h⟩ := runFrom_bind_eq_ok_iff.1 h
  obtain ⟨members, s₂, hmembers, h⟩ := runFrom_bind_eq_ok_iff.1 h
  refine runFrom_bind_eq_ok_iff.2 ⟨v, s₁, hsettings, ?_⟩
  refine runFrom_bind_eq_ok_iff.2 ⟨members, s₂, hmembers, ?_⟩
  cases hoptions : Options.ofMembers members with
  | invalid issues => simp [hoptions] at h
  | valid options =>
    simp only [hoptions] at h ⊢
    obtain ⟨hj, rfl⟩ := Prod.mk.inj h
    obtain rfl := Except.ok.inj hj
    rfl

theorem building_given (h : Building context disk args j s) (e : Engine) :
    Building (context.given e) disk args { j with engine := .given e } s := by
  obtain ⟨rest, r, s₀, s₁, hstart, hread, hjob⟩ := h
  exact ⟨rest, r, s₀, s₁, hstart, hread, job_given hjob e⟩

/-- With an engine that is loaded, the program runs as if the engine were given. -/
theorem run_of_loaded (h : Building context disk args j s) (hs : Prepared disk s)
    (hresolve : (Sources.resolve context.host disk j.paths j.cwd).runFrom {} = (.ok target, t))
    (hload : (Engine.ofSource context.registry j.engine).runFrom t = (.ok e, t')) :
    Alike (run context disk args) (run (context.given e) disk args) := by
  rw [← hs.disk, ← hs.trail] at hresolve
  rcases hbuild : (Build.run context.host context.registry j).runFrom
    { disk := s.disk, trail := s.trail } with ⟨x, u⟩
  have hloads : Build.Loads context.host context.registry j
    { disk := s.disk, trail := s.trail } target e t' := ⟨t, hresolve, hload⟩
  obtain ⟨v, hgiven, halike⟩ := Build.run_of_loads hloads hbuild context.registry
  rw [run_of_building h hbuild, run_of_building (building_given h e) hgiven]
  refine ⟨rfl, halike.disk, ?_, halike.calls, halike.produced⟩
  simp only [Session.after, halike.lines]

/-- Without an engine the program ends in the failure of the loading and makes no call. -/
theorem run_of_not_loaded {f : Failure} (h : Building context disk args j s)
    (hs : Prepared disk s)
    (hresolve : (Sources.resolve context.host disk j.paths j.cwd).runFrom {} = (.ok target, t))
    (hload : (Engine.ofSource context.registry j.engine).runFrom t = (.error f, t')) :
    (run context disk args).1 = Compile.ending (Build.concluded [] disk f).1
      ∧ (run context disk args).2.trail.calls = [] := by
  rw [← hs.disk, ← hs.trail] at hresolve
  rcases hbuild : (Build.run context.host context.registry j).runFrom
    { disk := s.disk, trail := s.trail } with ⟨x, u⟩
  obtain ⟨rfl, halike⟩ := Build.run_of_not_loaded (s := { disk := s.disk, trail := s.trail })
    hresolve hload hbuild
  rw [run_of_building h hbuild]
  refine ⟨by rw [← hs.disk], ?_⟩
  have hcalls := halike.calls
  rw [hs.trail] at hcalls
  exact hcalls

/-! ## Named engines -/

/-- The program uses the engine of a reference, or the default one without a reference: once that is
loaded, for the target with the trail `t`, everything goes as if the engine had been given, and it
is called once; and if it cannot be loaded, the program ends in that failure and calls no engine. -/
structure Uses (context : Context) (disk : Disk) (args : List String) (target : Target) (t : Trail)
    (reference : Option String) : Prop where
  loaded : ∀ l t', (Engine.load context.registry reference).runFrom t = (.ok l, t') →
    Alike (run context disk args) (run (context.given l.engine) disk args)
      ∧ ∃ options, (run context disk args).2.trail.calls = [Compilation.call target options]
  failed : ∀ f t', (Engine.load context.registry reference).runFrom t = (.error f, t') →
    (run context disk args).1 = Compile.ending (Build.concluded [] disk f).1
      ∧ (run context disk args).2.trail.calls = []

theorem uses_of_reference {reference : Option String} (h : Building context disk args j s)
    (hs : Prepared disk s)
    (hresolve : (Sources.resolve context.host disk j.paths j.cwd).runFrom {} = (.ok target, t))
    (hj : j.engine = .reference reference) : Uses context disk args target t reference where
  loaded := by
    intro l t' hload
    have hsource : (Engine.ofSource context.registry j.engine).runFrom t = (.ok l.engine, t') := by
      rw [hj, Engine.ofSource, Attempt.runFrom_bind, hload]
      rfl
    refine ⟨run_of_loaded h hs hresolve hsource, j.options, ?_⟩
    exact (calls_of_building h hs hresolve).1 ⟨_, t', hsource⟩
  failed := by
    intro f t' hload
    have hsource : (Engine.ofSource context.registry j.engine).runFrom t = (.error f, t') := by
      rw [hj, Engine.ofSource, Attempt.runFrom_bind, hload]
    exact run_of_not_loaded h hs hresolve hsource

theorem nonempty?_of_ne {x : Option String} (h : x ≠ some "") : nonempty? x = x := by
  cases x with
  | none => rfl
  | some text => exact if_neg fun hempty => h (congrArg some hempty)

/-- An empty text is no reference, whatever is registered. -/
theorem load_empty (registry : Engine.Registry) (t : Trail) :
    (Engine.load registry (some "")).runFrom t
      = (.error (.refused (Engine.invalidReference "")), t) :=
  Attempt.runFrom_refuse (Engine.invalidReference "") "" t

/-- Which engine is used for inputs that resolve, if none is given: the one that the arguments name,
or else the variable, or else the default one, where an empty name counts as none. The one exception
is an empty variable without a name among the arguments, which is refused as a reference. -/
theorem engine_selected (hengine : context.engine = none) (h : Accepts context disk args rest) :
    ∃ as texts, Spelled Compile.options rest as
      ∧ ({} : Settings.Lookup).fileTexts context.host disk = .ok texts
      ∧ ∀ target t,
        (Sources.resolve context.host disk as.others none).runFrom {} = (.ok target, t) →
        let named := nonempty? (as.value? .engine)
        let preset := Compile.presets context texts "engine"
        (¬ (named = none ∧ preset = some "") →
          Uses context disk args target t (named <|> nonempty? preset))
        ∧ (named = none → preset = some "" →
          (run context disk args).1
              = .error (.error ⟨(Engine.invalidReference "").message, 1⟩)
            ∧ (run context disk args).2.trail.calls = []) := by
  obtain ⟨as, texts, j, s, hspelled, htexts, hbuilding, hs, hasked⟩ := exists_building h
  refine ⟨as, texts, hspelled, htexts, fun target t hresolve => ?_⟩
  rw [← hasked.paths, ← hasked.cwd] at hresolve
  have huses := uses_of_reference hbuilding hs hresolve (hasked.engine_named hengine)
  intro named preset
  change Uses context disk args target t (named <|> preset) at huses
  constructor
  · intro hnot
    have hsame : (named <|> nonempty? preset) = (named <|> preset) := by
      cases hnamed : named with
      | some name => rfl
      | none => exact nonempty?_of_ne fun hempty => hnot ⟨hnamed, hempty⟩
    rw [hsame]
    exact huses
  · intro hnamed hpreset
    rw [hnamed, hpreset] at huses
    exact huses.failed _ t (load_empty context.registry t)

/-- A directory with one source file. -/
def tokenDisk : Disk := (Disk.empty.put ["w"] .folder).put ["w", "Token.cs"] (.file [])

/-- A context in that directory, with one registered engine and a variable for the engine. -/
def workshopContext (o : Engine) (engine : String) : Context where
  host := { cwd := ["w"], homes := ⟨"/", []⟩, environment := [("NCCS_ENGINE", engine)] }
  registry := ⟨[Engine.workshop o], [("a", "m:tool")]⟩

/-- An empty name among the arguments leaves the choice to the variable. -/
theorem variable_selects_engine :
    let o := ({} : Canned).engine
    let context := workshopContext o "m:tool"
    let rest := ["--engine", "", "Token.cs"]
    context.engine = none ∧ Accepts context tokenDisk ("compile" :: rest) rest
      ∧ Alike (run context tokenDisk ("compile" :: rest))
        (run (context.given o) tokenDisk ("compile" :: rest)) := by
  intro o context rest
  have haccepts : Accepts context tokenDisk ("compile" :: rest) rest :=
    accepts_of_isOk (by decide +kernel) (by decide +kernel)
  refine ⟨rfl, haccepts, ?_⟩
  obtain ⟨as, texts, hspelled, -, hselected⟩ := engine_selected rfl haccepts
  obtain rfl : as = ⟨[⟨.engine, some ""⟩], ["Token.cs"]⟩ :=
    Except.ok.inj ((Arguments.read_eq_ok_iff distinct_options).2 hspelled).symm
  have hfound : ((Sources.resolve context.host tokenDisk ["Token.cs"] none).runFrom {}).1.isOk
      = true := by decide +kernel
  obtain ⟨target, t, hresolve⟩ := exists_of_isOk hfound
  obtain ⟨huses, -⟩ := hselected target t hresolve
  have hpreset : Compile.presets context texts "engine" = some "m:tool" := by
    have hbound : Settings.boundText? [("NCCS_ENGINE", some "m:tool")]
        (Settings.variableOf "engine") = some "m:tool" := by decide +kernel
    rw [Compile.presets, Settings.valueOf?]
    exact congrArg (· <|> _) hbound
  rw [hpreset] at huses
  obtain ⟨u, hload, -⟩ := Engine.load_of_engine (Engine.workshop_finds_tool o) rfl rfl
    context.registry.entryPoints t
  exact ((huses (by simp)).loaded _ _ hload).1

/-- With an empty variable and no name among the arguments the default engine is not used, although
it can be loaded. -/
theorem empty_variable_hides_default :
    let o := ({} : Canned).engine
    let context := workshopContext o ""
    let rest := ["Token.cs"]
    context.engine = none ∧ Accepts context tokenDisk ("compile" :: rest) rest
      ∧ Spelled Compile.options rest { others := rest }
      ∧ (∃ target t,
        (Sources.resolve context.host tokenDisk rest none).runFrom {} = (.ok target, t)
        ∧ (∃ l t', (Engine.load context.registry none).runFrom t = (.ok l, t'))
        ∧ ¬ Uses context tokenDisk ("compile" :: rest) target t none)
      ∧ (run context tokenDisk ("compile" :: rest)).1 = .error (.error
        ⟨"Invalid engine reference ''. Expected 'package.module:attribute'.", 1⟩) := by
  intro o context rest
  have haccepts : Accepts context tokenDisk ("compile" :: rest) rest :=
    accepts_of_isOk (by decide +kernel) (by decide +kernel)
  have hnone : (run context tokenDisk ("compile" :: rest)).2.trail.calls = [] := by
    decide +kernel
  have hspelled : Spelled Compile.options rest { others := rest } :=
    (Arguments.read_eq_ok_iff distinct_options).1 rfl
  have hfound : ((Sources.resolve context.host tokenDisk rest none).runFrom {}).1.isOk = true := by
    decide +kernel
  obtain ⟨target, t, hresolve⟩ := exists_of_isOk hfound
  refine ⟨rfl, haccepts, hspelled, ⟨target, t, hresolve, ?_⟩, by decide +kernel⟩
  have hselected : Engine.Selected context.registry.entryPoints ("a", "m:tool") :=
    ⟨[], [], rfl, by simp, by simp⟩
  have hboth : ∃ x u,
      (Engine.load ⟨[Engine.workshop o], []⟩ (some "m:tool")).runFrom t = (x, t.extend u)
      ∧ (Engine.load context.registry none).runFrom t
        = (x, (t.extend { log := [Engine.selectedRecord "a" "m:tool"] }).extend u) :=
    Engine.load_of_selected hselected [] t
  obtain ⟨x, u, hreference, hdefault⟩ := hboth
  obtain ⟨w, hload, -⟩ := Engine.load_of_engine (Engine.workshop_finds_tool o) rfl rfl [] t
  obtain ⟨rfl, -⟩ := Prod.mk.inj (hreference.symm.trans hload)
  refine ⟨⟨_, _, hdefault⟩, fun huses => ?_⟩
  obtain ⟨-, options, hcalls⟩ := huses.loaded _ _ hdefault
  rw [hnone] at hcalls
  exact absurd hcalls (by simp)

end Program

end ContractBuild.Command
