import ContractBuild.Command.Program
import ContractBuild.Proofs.Settings.Variables

/-!
# The course of a session

A session either stops before a command does its work, or comes to resolving paths or to a build.
`Stops` lists all routes of the first kind with what is raised on each: nothing but usage errors,
invalid settings and options, failures, and help or the version that was asked for.
`stops_or_reaches` says that there are no other routes, and `fst_run_of_stops`,
`fst_run_of_resolving` and `fst_run_of_building` say how the program ends on each.

What a stage can raise is a property that passes through `bind` (`Raises`), so that it is shown
for each small stage and put together without looking at states. `Interruption.Early` is that
property for everything before a command's work: what is raised there has the exit code 1, unless
help or the version was asked for, or becomes an input error with that code. A failure counts as
early if its exit code is 1, and the failures of reading settings and arguments are.

Only a build can end in a failure with another exit code, because only there foreign code runs.
-/

namespace ContractBuild.Command

variable {α β : Type}

/-! ## What a stage raises -/

/-- If an interruption is an error or a failure, then one with the exit code 1. -/
def Interruption.Early : Interruption → Prop
  | error e => e.exitCode = 1
  | failure f => f.exitCode = 1
  | _ => True

namespace Commanding

variable {P : Interruption → Prop} {c : Commanding α} {f : α → Commanding β}

/-- Whatever a stage raises satisfies `P`. -/
def Raises (P : Interruption → Prop) (c : Commanding α) : Prop :=
  ∀ i s s', c.runFrom s = (.error i, s') → P i

theorem raises_of_ok (h : ∀ s, ∃ a s', c.runFrom s = (.ok a, s')) : Raises P c := by
  intro i s s' herror
  obtain ⟨a, s₁, hok⟩ := h s
  simp [hok] at herror

theorem raises_pure (a : α) : Raises P (pure a : Commanding α) :=
  raises_of_ok fun s => ⟨a, s, rfl⟩

theorem raises_get : Raises P (get : Commanding Session) := raises_of_ok fun s => ⟨s, s, rfl⟩

theorem raises_modify (g : Session → Session) : Raises P (modify g : Commanding PUnit) :=
  raises_of_ok fun s => ⟨_, g s, rfl⟩

theorem raises_print (m : Message) : Raises P (print m) := raises_of_ok fun _ => ⟨(), _, rfl⟩

theorem raises_interrupt {i : Interruption} (h : P i) :
    Raises P (interrupt i : Commanding α) := by
  intro j s s' herror
  obtain ⟨hj, -⟩ := Prod.mk.inj herror
  obtain rfl := Except.error.inj hj
  exact h

theorem Raises.bind (hc : Raises P c) (hf : ∀ a, Raises P (f a)) : Raises P (c >>= f) := by
  intro i s s' herror
  rcases runFrom_bind_eq_error_iff.1 herror with hfirst | ⟨a, s₁, -, hsecond⟩
  · exact hc i s s' hfirst
  · exact hf a i s₁ s' hsecond

theorem raises_forM {f : α → Commanding PUnit} (hf : ∀ a, Raises P (f a)) (as : List α) :
    Raises P (as.forM f) := by
  induction as with
  | nil => exact raises_pure _
  | cons a as ih => exact (hf a).bind fun _ => ih

theorem raises_ofUsage (h : ∀ e, P (.misread (some e))) (x : Except UsageError α) :
    Raises P (ofUsage x) := by
  cases x with
  | ok a => exact raises_pure a
  | error e => exact raises_interrupt (h e)

theorem raises_ofExcept {x : Except Failure α} (h : ∀ g, x = .error g → P (.failure g)) :
    Raises P (ofExcept x) := by
  cases x with
  | ok a => exact raises_pure a
  | error g => exact raises_interrupt (h g rfl)

theorem runFrom_asInputError_eq_ok_iff {a : α} {s s' : Session} :
    (asInputError c).runFrom s = (.ok a, s') ↔ c.runFrom s = (.ok a, s') := by
  rw [runFrom_asInputError]
  rcases c.runFrom s with ⟨i | b, s₁⟩ <;> simp

end Commanding

open Commanding

/-! ## What is raised before a command's work -/

theorem early_ofUsage (x : Except UsageError α) : Raises Interruption.Early (ofUsage x) :=
  raises_ofUsage (fun _ => trivial) x

theorem early_ofExcept {x : Except Failure α} (h : ∀ f, x = .error f → f.exitCode = 1) :
    Raises Interruption.Early (ofExcept x) := raises_ofExcept h

theorem early_help (lines : List String) :
    Raises Interruption.Early (help lines : Commanding α) :=
  (raises_forM (fun _ => raises_print _) lines).bind fun _ => raises_interrupt trivial

/-- Invalid settings are told with the exit code 1. -/
theorem early_readSettings (host : Host) (disk : Disk) : Raises Interruption.Early (do
    match ← ofExcept (Settings.read host disk) with
    | .valid s => return s
    | .invalid issues => interrupt (.error (invalidSettings issues))) := by
  refine (early_ofExcept fun _ => Settings.exitCode_of_read).bind fun checked => ?_
  cases checked with
  | valid s => exact raises_pure s
  | invalid issues => exact raises_interrupt rfl

theorem early_settings (host : Host) : Raises Interruption.Early (settings host) := by
  refine raises_get.bind fun s =>
    (early_ofExcept fun _ => Settings.exitCode_of_fileWarnings).bind fun warnings => ?_
  have hread := early_readSettings host s.disk
  split
  next => exact (raises_forM (fun _ => raises_print _) warnings).bind fun _ => hread
  next => exact hread

theorem early_pathArguments (texts : List String) :
    Raises Interruption.Early (pathArguments texts) := by
  unfold pathArguments
  split
  next => exact raises_interrupt rfl
  next => exact raises_pure texts

namespace Program

theorem early_answerEager (keys : List Key) : Raises Interruption.Early (answerEager keys) := by
  unfold answerEager
  split
  next => exact (raises_print _).bind fun _ => raises_interrupt trivial
  next => exact early_help _
  next => exact raises_pure ()

theorem early_putInForce (context : Context) (as : Arguments Key) :
    Raises Interruption.Early (do
      answerEager as.keys
      let level? ← ofUsage ((as.value? .logLevel).mapM chooseLogLevel)
      let settings ← Commanding.settings context.host
      match Log.Setup.of
          { level := level?.getD settings.logLevel, json := settings.logJson } with
      | .ok log => modify fun s => { s with log }
      | .error m => interrupt (.failure (.misuse m))
      return as.others) := by
  refine (early_answerEager _).bind fun _ => (early_ofUsage _).bind fun level? => ?_
  refine (early_settings context.host).bind fun settings => ?_
  split
  next => exact (raises_modify _).bind fun _ => raises_pure _
  next m _ =>
    have hmisuse : (Interruption.failure (.misuse m)).Early := rfl
    exact (raises_interrupt hmisuse).bind fun _ => raises_pure _

theorem early_readOptions (context : Context) (args : List String) :
    Raises Interruption.Early (readOptions context args) := by
  refine (early_ofUsage _).bind fun as => ?_
  have hrest := early_putInForce context as
  split
  next => exact (raises_modify _).bind fun _ => hrest
  next => exact hrest

end Program

theorem Resolve.early_readPaths (args : List String) :
    Raises Interruption.Early (readPaths args) := by
  refine (early_ofUsage _).bind fun as => ?_
  split
  next => exact (early_help Help.resolve).bind fun _ => early_pathArguments _
  next => exact early_pathArguments _

namespace Compile

theorem early_of_checkOutput {context : Context} {disk : Disk} {text : String} {i : Interruption}
    (h : checkOutput context disk text = .error i) : i.Early := by
  unfold checkOutput at h
  split at h
  next =>
    obtain rfl := Except.error.inj h
    trivial
  next =>
    obtain rfl := Except.error.inj h
    trivial
  next => simp at h

theorem early_of_checkOption {context : Context} {disk : Disk} {as : Arguments Key} {key : Key}
    {i : Interruption} (h : checkOption context disk as key = .error i) : i.Early := by
  unfold checkOption at h
  split at h
  next => exact early_of_checkOutput h
  next =>
    split at h
    next => simp at h
    next =>
      obtain rfl := Except.error.inj h
      trivial
  next => simp at h

theorem early_checkOption (context : Context) (disk : Disk) (as : Arguments Key) (key : Key) :
    Raises Interruption.Early
      (ExceptT.mk (pure (checkOption context disk as key)) : Commanding Unit) :=
  fun _ _ _ h => early_of_checkOption (Prod.mk.inj h).1

theorem early_readRequest (context : Context) (args : List String) :
    Raises Interruption.Early (readRequest context args) := by
  have hrest (as : Arguments Key) : Raises Interruption.Early (do
      let disk := (← get).disk
      as.keys.forM fun key => ExceptT.mk (pure (checkOption context disk as key))
      return request as (← pathArguments as.others)) :=
    raises_get.bind fun s =>
      (raises_forM (early_checkOption context s.disk as) as.keys).bind fun _ =>
        (early_pathArguments _).bind fun _ => raises_pure _
  refine (early_ofUsage _).bind fun as => ?_
  split
  next => exact (early_help Help.compile).bind fun _ => hrest as
  next => exact hrest as

theorem early_job (context : Context) (r : Request) :
    Raises Interruption.Early (job context r) := by
  refine (early_settings _).bind fun settings => ?_
  have hmembers : ∀ f, (r.members settings).mapError Failure.misuse = .error f →
      f.exitCode = 1 := by
    intro f hf
    obtain ⟨m, -, rfl⟩ := mapError_eq_error_iff.1 hf
    rfl
  refine (early_ofExcept hmembers).bind fun members => ?_
  split
  next => exact raises_interrupt rfl
  next => exact raises_pure _

end Compile

/-! ## The routes of a session -/

namespace Program

variable {context : Context} {disk : Disk} {args rest paths : List String} {i : Interruption}
variable {j : Build.Job} {r : Compile.Request} {s s₀ s₁ : Session}

/-- The options of the program are read, and `rest` is left for a command. -/
def Starts (context : Context) (disk : Disk) (args rest : List String) (s : Session) : Prop :=
  (start context args).runFrom { disk } = (.ok rest, s)

/-- The ways in which a session stops before a command does its work, each with what is raised. -/
inductive Stops (context : Context) (disk : Disk) (args : List String) : Interruption → Prop
  | noArguments (hargs : args = []) : Stops context disk args (.misread none)
  /-- The options of the program or its settings are wrong, or ask for help or the version. -/
  | options (i : Interruption) (s : Session) (hargs : args ≠ [])
    (hread : (readOptions context args).runFrom { disk } = (.error i, s)) :
    Stops context disk args i
  | missingCommand (s : Session) (hstart : Starts context disk args [] s) :
    Stops context disk args (.misread (some .missingCommand))
  /-- What stands in the place of a command is read as an option of the program. -/
  | misplacedOption (name : String) (rest : List String) (i : Interruption) (s s' : Session)
    (hstart : Starts context disk args (name :: rest) s) (hname : command? name = none)
    (hlooks : looksLikeOption name = true)
    (hread : (readOptions context (name :: rest)).runFrom s = (.error i, s')) :
    Stops context disk args i
  | unknownCommand (name : String) (rest : List String) (s : Session)
    (hstart : Starts context disk args (name :: rest) s) (hname : command? name = none)
    (hlooks : looksLikeOption name = true →
      ∃ others s', (readOptions context (name :: rest)).runFrom s = (.ok others, s')) :
    Stops context disk args (.misread (some (.noSuchCommand name)))
  /-- The arguments of the resolve command are wrong or ask for help. -/
  | resolveArguments (rest : List String) (i : Interruption) (s s' : Session)
    (hstart : Starts context disk args ("resolve" :: rest) s)
    (hread : (Resolve.readPaths rest).runFrom s = (.error i, s')) : Stops context disk args i
  /-- The arguments of the compile command are wrong or ask for help. -/
  | compileArguments (rest : List String) (i : Interruption) (s s' : Session)
    (hstart : Starts context disk args ("compile" :: rest) s)
    (hread : (Compile.readRequest context rest).runFrom s = (.error i, s')) :
    Stops context disk args i
  /-- The settings or the compiler options that come from them and the arguments are wrong. -/
  | compileOptions (rest : List String) (r : Compile.Request) (i : Interruption)
    (s s₁ s' : Session) (hstart : Starts context disk args ("compile" :: rest) s)
    (hread : (Compile.readRequest context rest).runFrom s = (.ok r, s₁))
    (hjob : (Compile.job context r).runFrom s₁ = (.error i, s')) : Stops context disk args i

/-- The compile command comes to a build. -/
def Building (context : Context) (disk : Disk) (args : List String) (j : Build.Job)
    (s : Session) : Prop :=
  ∃ rest r s₀ s₁, Starts context disk args ("compile" :: rest) s₀
    ∧ (Compile.readRequest context rest).runFrom s₀ = (.ok r, s₁)
    ∧ (Compile.job context r).runFrom s₁ = (.ok j, s)

/-- The result of the program and its state are those of the session, but for the error that is
shown at last. -/
theorem run_of_session {x : Except Interruption Unit} {s : Session}
    (h : (session context args).runFrom { disk } = (x, s)) :
    run context disk args = (x, { s with messages := s.messages ++ showError x }) := by
  rw [run, h]

theorem start_of_ne_nil (hargs : args ≠ []) :
    start context args = asInputError (readOptions context args) := by
  cases args with
  | nil => exact absurd rfl hargs
  | cons a as => rfl

theorem session_of_starts (h : Starts context disk args rest s) :
    (session context args).runFrom { disk } = (invoke context rest).runFrom s :=
  runFrom_bind_of_ok h

theorem compile_of_readRequest
    (h : (Compile.readRequest context rest).runFrom s₀ = (.ok r, s)) :
    (dispatch context ("compile" :: rest)).runFrom s₀ = (Compile.run context r).runFrom s :=
  runFrom_bind_of_ok h

/-- Whatever is raised on a route that stops is early. -/
theorem Stops.early (h : Stops context disk args i) : i.Early := by
  cases h with
  | noArguments => trivial
  | options _ s hargs hread => exact early_readOptions context args i _ s hread
  | missingCommand => trivial
  | misplacedOption name rest _ s s' hstart hname hlooks hread =>
    exact early_readOptions context (name :: rest) i s s' hread
  | unknownCommand => trivial
  | resolveArguments rest _ s s' hstart hread => exact Resolve.early_readPaths rest i s s' hread
  | compileArguments rest _ s s' hstart hread =>
    exact Compile.early_readRequest context rest i s s' hread
  | compileOptions rest r _ s s₁ s' hstart hread hjob =>
    exact Compile.early_job context r i s₁ s' hjob

end Program

/-! ## The work of a command -/

/-- How a session ends after resolving. -/
def Resolve.ending : Except Failure Target → Except Interruption Unit
  | .ok _ => .ok ()
  | .error (.refused r) => .error (.error ⟨r.message, r.exitCode⟩)
  | .error f => .error (.failure f)

/-- What is shown of the result of resolving. -/
def Resolve.shown : Except Failure Target → List Message
  | .ok target => messages target
  | .error _ => []

/-- How a session ends after a build. -/
def Compile.ending : Except Failure Outcome → Except Interruption Unit
  | .ok o => if o.succeeded then .ok () else .error (.error ⟨o.message, o.exitCode⟩)
  | .error f => .error (.failure f)

/-- The session after a run in it. -/
def Session.after (s : Session) (u : Run) : Session :=
  { s with disk := u.disk, messages := s.messages ++ u.lines.map .plain, trail := u.trail }

/-- Resolving changes nothing but the trail, and its result is shown. -/
theorem Resolve.runFrom_run {context : Context} {paths : List String} {s : Session}
    {x : Except Failure Target} {t : Trail}
    (h : (Sources.resolve context.host s.disk paths none).runFrom s.trail = (x, t)) :
    (run context paths).runFrom s
      = (ending x, { s with messages := s.messages ++ shown x, trail := t }) := by
  rw [run, runFrom_bind, runFrom_get]
  simp only [runFrom_bind, runFrom_ofRunning, Running.runFrom_attempt, h]
  rcases x with f | target
  · cases f <;> simp [ending, shown]
  · simpa [ending, shown] using runFrom_forM_print id (messages target) { s with trail := t }

theorem Compile.runFrom_build {context : Context} {j : Build.Job} {s : Session}
    {x : Except Failure Outcome} {u : Run}
    (h : (Build.run context.host context.registry j).runFrom { disk := s.disk, trail := s.trail }
      = (x, u)) :
    (build context j).runFrom s = (ending x, s.after u) := by
  rw [build, runFrom_bind]
  simp only [runFrom_ofRunning, h]
  rcases x with f | o
  · rfl
  · cases hsucceeded : o.succeeded <;> simp [ending, ofOutcome, hsucceeded, Session.after]

theorem Resolve.asInputError_ending (x : Except Failure Target) :
    (ending x).mapError Interruption.asInputError = ending x := by
  cases x with
  | ok target => rfl
  | error f => cases f <;> rfl

theorem Compile.asInputError_ending (x : Except Failure Outcome) :
    (ending x).mapError Interruption.asInputError = ending x := by
  cases x with
  | ok o => cases h : o.succeeded <;> simp [ending, h, Interruption.asInputError]
  | error f => rfl

namespace Program

variable {context : Context} {disk : Disk} {args paths : List String}
variable {j : Build.Job} {s : Session}

/-- A session that comes to a build ends as the build does. -/
theorem run_of_building {x : Except Failure Outcome} {u : Run}
    (h : Building context disk args j s)
    (hbuild : (Build.run context.host context.registry j).runFrom
      { disk := s.disk, trail := s.trail } = (x, u)) :
    run context disk args = (Compile.ending x, { s.after u with
      messages := (s.after u).messages ++ showError (Compile.ending x) }) := by
  obtain ⟨rest, r, s₀, s₁, hstart, hread, hjob⟩ := h
  have hinvoke : (invoke context ("compile" :: rest)).runFrom s₀
      = (Compile.ending x, s.after u) := by
    rw [invoke, runFrom_asInputError, compile_of_readRequest hread, Compile.run,
      runFrom_bind_of_ok hjob, Compile.runFrom_build hbuild]
    simp only [Compile.asInputError_ending]
  exact run_of_session ((session_of_starts hstart).trans hinvoke)

end Program

end ContractBuild.Command
