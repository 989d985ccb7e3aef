import ContractBuild.Proofs.Command.Prediction
import ContractBuild.Proofs.Command.Spelling
import ContractBuild.Proofs.Settings.Variables

/-!
# What the compile command asks for

Once the compile command has read its arguments, nothing can go wrong before the build: the settings
were read when the program started, and every value that an option can have passes the checks of the
compiler options. So there is a build, and all that it is asked for can be read off the arguments
and the variables (`exists_building`).
-/

namespace ContractBuild.Command

variable {α β : Type} {context : Context} {disk : Disk} {args rest : List String}
variable {as : Arguments Compile.Key} {v : Settings} {s s' : Session}

/-! ## Before the build -/

namespace Commanding

/-- If a stage has a result, it has done nothing but reading settings and looking at the disk, and
the result satisfies `P`. -/
def Prepares (disk : Disk) (P : α → Prop) (c : Commanding α) : Prop :=
  ∀ s a s', Prepared disk s → c.runFrom s = (.ok a, s') → Prepared disk s' ∧ P a

variable {P : α → Prop} {Q : β → Prop} {c : Commanding α} {f : α → Commanding β}

theorem Prepares.bind (hc : Prepares disk P c) (hf : ∀ a, P a → Prepares disk Q (f a)) :
    Prepares disk Q (c >>= f) := by
  intro s b s' hs h
  obtain ⟨a, s₁, hfirst, hsecond⟩ := runFrom_bind_eq_ok_iff.1 h
  obtain ⟨hs₁, ha⟩ := hc s a s₁ hs hfirst
  exact hf a ha s₁ b s' hs₁ hsecond

theorem prepares_pure {a : α} (h : P a) : Prepares disk P (pure a : Commanding α) := by
  intro s b s' hs hrun
  obtain ⟨hb, rfl⟩ := Prod.mk.inj hrun
  obtain rfl := Except.ok.inj hb
  exact ⟨hs, h⟩

/-- A stage without a result prepares anything. -/
theorem prepares_of_interrupts (i : Interruption) :
    Prepares disk Q (c >>= fun _ => interrupt i : Commanding β) := by
  intro s b s' _ h
  obtain ⟨a, s₁, -, hinterrupt⟩ := runFrom_bind_eq_ok_iff.1 h
  simp at hinterrupt

theorem prepares_interrupt (i : Interruption) : Prepares disk P (interrupt i : Commanding α) := by
  intro s a s' _ h
  simp at h

theorem prepares_get : Prepares disk (fun s => s.disk = disk) (get : Commanding Session) := by
  intro s a s' hs h
  obtain ⟨ha, rfl⟩ := Prod.mk.inj h
  obtain rfl := Except.ok.inj ha
  exact ⟨hs, hs.disk⟩

theorem prepares_modify (g : Session → Session)
    (hg : ∀ s, (g s).disk = s.disk ∧ (g s).trail = s.trail ∧ (g s).messages = s.messages) :
    Prepares disk (fun _ => True) (modify g : Commanding PUnit) := by
  intro s a s' hs h
  obtain ⟨-, rfl⟩ := Prod.mk.inj h
  obtain ⟨hdisk, htrail, hmessages⟩ := hg s
  exact ⟨⟨hdisk.trans hs.disk, htrail.trans hs.trail, hmessages ▸ hs.warnings⟩, trivial⟩

theorem prepares_warn (w : String) :
    Prepares disk (fun _ => True) (print (.plain ⟨.err, w⟩)) := by
  intro s a s' hs h
  obtain ⟨-, rfl⟩ := Prod.mk.inj h
  refine ⟨⟨hs.disk, hs.trail, fun m hm => ?_⟩, trivial⟩
  rcases List.mem_append.1 hm with hm | hm
  · exact hs.warnings m hm
  · obtain rfl := List.mem_singleton.1 hm
    rfl

theorem prepares_forM {γ : Type} {f : γ → Commanding PUnit} {R : γ → Prop}
    (hf : ∀ a, Prepares disk (fun _ => R a) (f a)) (as : List γ) :
    Prepares disk (fun _ => ∀ a ∈ as, R a) (as.forM f) := by
  induction as with
  | nil => exact prepares_pure (by simp)
  | cons a as ih =>
    refine (hf a).bind fun _ ha => ?_
    intro s u s' hs h
    obtain ⟨hs', has⟩ := ih s u s' hs h
    exact ⟨hs', List.forall_mem_cons.2 ⟨ha, has⟩⟩

theorem prepares_ofUsage (x : Except UsageError α) :
    Prepares disk (fun a => x = .ok a) (ofUsage x) := by
  cases x with
  | ok a => exact prepares_pure rfl
  | error e => exact prepares_interrupt _

theorem prepares_ofExcept (x : Except Failure α) :
    Prepares disk (fun a => x = .ok a) (ofExcept x) := by
  cases x with
  | ok a => exact prepares_pure rfl
  | error g => exact prepares_interrupt _

/-- Only valid settings are read. -/
theorem prepares_readSettings (host : Host) :
    Prepares disk (fun v => Settings.read host disk = .ok (.valid v)) (do
      match ← ofExcept (Settings.read host disk) with
      | .valid s => return s
      | .invalid issues => interrupt (.error (invalidSettings issues))) := by
  refine (prepares_ofExcept _).bind fun checked hchecked => ?_
  cases checked with
  | valid v => exact prepares_pure hchecked
  | invalid issues => exact prepares_interrupt _

theorem prepares_settings (host : Host) :
    Prepares disk (fun v => Settings.read host disk = .ok (.valid v)) (settings host) := by
  refine prepares_get.bind fun s hs => (prepares_ofExcept _).bind fun warnings _ => ?_
  rw [hs]
  have hread : Prepares disk _ _ := prepares_readSettings host
  split
  next => exact (prepares_forM (fun w => prepares_warn w) warnings).bind fun _ _ => hread
  next => exact hread

end Commanding

open Commanding

namespace Program

theorem prepares_answerEager (keys : List Key) :
    Prepares disk (fun _ => True) (answerEager keys) := by
  unfold answerEager
  split
  next => exact prepares_of_interrupts _
  next => exact prepares_of_interrupts _
  next => exact prepares_pure trivial

/-- Where the program starts on a command, its settings are valid. -/
theorem prepares_putInForce (context : Context) (as : Arguments Key) :
    Prepares disk (fun _ => ∃ v, Settings.read context.host disk = .ok (.valid v)) (do
      answerEager as.keys
      let level? ← ofUsage ((as.value? .logLevel).mapM chooseLogLevel)
      let settings ← Commanding.settings context.host
      match Log.Setup.of
          { level := level?.getD settings.logLevel, json := settings.logJson } with
      | .ok log => modify fun s => { s with log }
      | .error m => interrupt (.failure (.misuse m))
      return as.others) := by
  refine (prepares_answerEager _).bind fun _ _ => (prepares_ofUsage _).bind fun level? _ => ?_
  refine (prepares_settings context.host).bind fun v hv => ?_
  split
  next =>
    refine Prepares.bind (prepares_modify _ ?_) fun _ _ => prepares_pure ⟨v, hv⟩
    exact fun _ => ⟨rfl, rfl, rfl⟩
  next => exact (prepares_interrupt (P := fun _ => True) _).bind fun _ _ => prepares_pure ⟨v, hv⟩

theorem prepares_readOptions (args : List String) :
    Prepares disk (fun _ => ∃ v, Settings.read context.host disk = .ok (.valid v))
      (readOptions context args) := by
  refine (prepares_ofUsage _).bind fun as _ => ?_
  have hrest : Prepares disk _ _ := prepares_putInForce context as
  split
  next =>
    refine Prepares.bind (prepares_modify _ ?_) fun _ _ => hrest
    exact fun _ => ⟨rfl, rfl, rfl⟩
  next => exact hrest

theorem prepared_of_starts (h : Starts context disk args rest s) :
    Prepared disk s ∧ ∃ v, Settings.read context.host disk = .ok (.valid v) := by
  have hne : args ≠ [] := by
    rintro rfl
    exact absurd (Prod.mk.inj h).1 (by simp)
  rw [Starts, start_of_ne_nil hne] at h
  have hblank : Prepared disk { disk } := ⟨rfl, rfl, by simp⟩
  exact prepares_readOptions args _ _ _ hblank (runFrom_asInputError_eq_ok_iff.1 h)

end Program

/-! ## Reading the arguments -/

theorem prepares_pathArguments (texts : List String) :
    Prepares disk (fun paths => paths = texts) (pathArguments texts) := by
  unfold pathArguments
  split
  next => exact prepares_interrupt _
  next => exact prepares_pure rfl

namespace Compile

/-- The values of the options that occur pass their checks. -/
def Checks (context : Context) (disk : Disk) (as : Arguments Key) : Prop :=
  ∀ key ∈ as.keys, checkOption context disk as key = .ok ()

theorem prepares_checkOption (context : Context) (as : Arguments Key) (key : Key) :
    Prepares disk (fun _ => checkOption context disk as key = .ok ())
      (ExceptT.mk (pure (checkOption context disk as key)) : Commanding Unit) := by
  intro s a s' hs h
  obtain ⟨hcheck, rfl⟩ := Prod.mk.inj h
  exact ⟨hs, hcheck⟩

theorem prepares_readRequest (args : List String) :
    Prepares disk (fun r => ∃ as, Arguments.read options true args = .ok as
        ∧ Checks context disk as ∧ r = request as as.others)
      (readRequest context args) := by
  refine (prepares_ofUsage _).bind fun as has => ?_
  have hrest : Prepares disk (fun r => ∃ as, Arguments.read options true args = .ok as
      ∧ Checks context disk as ∧ r = request as as.others) (do
      let disk := (← get).disk
      as.keys.forM fun key => ExceptT.mk (pure (checkOption context disk as key))
      return request as (← pathArguments as.others)) := by
    refine prepares_get.bind fun s hs => ?_
    subst hs
    refine (prepares_forM (prepares_checkOption context as) as.keys).bind fun _ hchecks => ?_
    refine (prepares_pathArguments as.others).bind fun paths hpaths => ?_
    exact prepares_pure ⟨as, has, hchecks, by rw [hpaths]⟩
  split
  next => exact (prepares_of_interrupts (Q := fun _ => True) _).bind fun _ _ => hrest
  next => exact hrest

/-! ## The build that is asked for -/

/-- Where the address version comes from: from the option, or else from the variable, or else it is
that of the default network. -/
inductive Version (as : Arguments Key) (value? : String → Option String) (n : UInt8) : Prop
  | ofArgument (text : String) (hgiven : as.value? .addressVersion = some text)
    (hn : number? text = some (n.toNat : Int))
  | ofVariable (text : String) (hgiven : as.value? .addressVersion = none)
    (hvariable : value? "address_version" = some text)
    (hn : Validation.integer (.str text) = .valid (n.toNat : Int))
  | ofDefault (hgiven : as.value? .addressVersion = none)
    (hvariable : value? "address_version" = none) (hn : n = 0x35)

/-- The options that arguments ask for, with an address version. An empty output directory counts as
none. -/
def optionsOf (as : Arguments Key) (n : UInt8) : Options where
  outputDirectory := (nonempty? (as.value? .output)).map Path.ofText
  contractName := (as.value? .contractName).map .sound
  emitDebugInfo := as.has .debug
  emitAssembly := as.has .assembly
  disableOptimization := as.has .noOptimize
  disableInlining := as.has .noInline
  addressVersion := n

/-- What a build is asked for, told by the arguments and by the values of the variables. -/
structure Asked (context : Context) (as : Arguments Key) (value? : String → Option String)
    (j : Build.Job) : Prop where
  paths : j.paths = as.others
  cwd : j.cwd = none
  options : j.options = optionsOf as j.options.addressVersion
  addressVersion : Version as value? j.options.addressVersion
  engine_given : ∀ e, context.engine = some (.given e) → j.engine = .given e
  /-- An empty name of an engine counts as none in the arguments, but not in the variable. -/
  engine_named : context.engine = none →
    j.engine = .reference (nonempty? (as.value? .engine) <|> value? "engine")

theorem toNat_toUInt8 {i : Int} (hlow : 0 ≤ i) (hhigh : i ≤ 255) :
    (i.toNat.toUInt8.toNat : Int) = i := by
  have hbyte : i.toNat.toUInt8.toNat = i.toNat := by
    rw [Nat.toUInt8_eq, UInt8.toNat_ofNat']
    omega
  rw [hbyte, Int.toNat_of_nonneg hlow]

theorem addressVersion_eq_ok {text : String} {n : UInt8} (h : addressVersion text = .ok n) :
    number? text = some (n.toNat : Int) := by
  unfold addressVersion at h
  cases hnumber : number? text with
  | none => simp [hnumber] at h
  | some i =>
    simp only [hnumber] at h
    split at h
    next hrange =>
      obtain rfl := Except.ok.inj h
      rw [toNat_toUInt8 hrange.1 hrange.2]
    next => simp at h

theorem byte_eq_valid {d : Document} {n : UInt8} (h : Validation.byte d = .valid n) :
    Validation.integer d = .valid (n.toNat : Int) := by
  unfold Validation.byte at h
  cases hinteger : Validation.integer d with
  | invalid issues => simp [hinteger, Validation.Checked.andThen] at h
  | valid i =>
    simp only [hinteger, Validation.Checked.andThen] at h
    split at h
    next => simp [Validation.Checked.broken] at h
    next hlow =>
      split at h
      next => simp [Validation.Checked.broken] at h
      next hhigh =>
        obtain rfl := Validation.Checked.valid.inj h
        rw [toNat_toUInt8 (by omega) (by omega)]

/-- An option with a value occurs. -/
theorem mem_keys_of_value? {key : Key} {text : String} (h : as.value? key = some text) :
    key ∈ as.keys := by
  obtain ⟨o, ho, -⟩ := Option.bind_eq_some_iff.1 h
  have hmem := List.mem_of_find?_eq_some ho
  have hkey : o.key = key := by simpa using List.find?_some ho
  rw [Arguments.keys, List.mem_eraseDups]
  exact hkey ▸ List.mem_map_of_mem (List.mem_reverse.1 hmem)

theorem Checks.addressVersion (h : Checks context disk as) {text : String}
    (htext : as.value? .addressVersion = some text) :
    ∃ n, Compile.addressVersion text = .ok n := by
  have hcheck := h .addressVersion (mem_keys_of_value? htext)
  unfold checkOption at hcheck
  rw [htext] at hcheck
  cases hversion : Compile.addressVersion text with
  | ok n => exact ⟨n, rfl⟩
  | error e => simp [hversion] at hcheck

theorem outputDirectory_request (as : Arguments Key) (paths : List String) :
    (request as paths).outputDirectory
      = .ok (Document.ofOption .str (nonempty? (as.value? .output))) := by
  unfold Request.outputDirectory
  cases hvalue : as.value? .output with
  | none => simp [request, hvalue, nonempty?, Document.ofOption, Document.isYes]
  | some text =>
    by_cases hempty : text = "" <;> simp [request, hvalue, nonempty?, Document.ofOption, hempty]

theorem nullable_ofOption (check : Validation.Check α) {g : String → α}
    (h : ∀ s, check (.str s) = .valid (g s)) (x : Option String) :
    Validation.nullable check (Document.ofOption .str x) = .valid (x.map g) := by
  cases x with
  | none => rfl
  | some s => simp [Validation.nullable, Document.ofOption, h, Validation.Checked.map]

/-- The fields of the options that arguments ask for. -/
def membersOf (as : Arguments Key) (n : UInt8) : List (Document × Document) := [
  (.str "output_directory", Document.ofOption .str (nonempty? (as.value? .output))),
  (.str "contract_name", Document.ofOption .str (as.value? .contractName)),
  (.str "emit_debug_info", .bool (as.has .debug)),
  (.str "emit_assembly", .bool (as.has .assembly)),
  (.str "disable_optimization", .bool (as.has .noOptimize)),
  (.str "disable_inlining", .bool (as.has .noInline)),
  (.str "address_version", .int n.toNat)]

/-- The address version is that of the arguments, or else that of the settings. -/
theorem exists_members (h : Checks context disk as) (v : Settings) :
    ∃ n, (request as as.others).members v = .ok (membersOf as n)
      ∧ (∀ text, as.value? .addressVersion = some text → number? text = some (n.toNat : Int))
      ∧ (as.value? .addressVersion = none → n = v.addressVersion) := by
  cases hvalue : as.value? .addressVersion with
  | none =>
    refine ⟨v.addressVersion, ?_, by simp, fun _ => rfl⟩
    rw [Request.members, outputDirectory_request]
    simp only [request, hvalue]
    rfl
  | some text =>
    obtain ⟨n, hn⟩ := h.addressVersion hvalue
    refine ⟨n, ?_, ?_, by simp⟩
    · rw [Request.members, outputDirectory_request]
      simp only [request, hvalue, Option.map_some, hn]
      rfl
    · intro t ht
      obtain rfl := Option.some.inj ht
      exact addressVersion_eq_ok hn

/-- Whatever arguments ask for are valid options. -/
theorem ofMembers_membersOf (as : Arguments Key) (n : UInt8) :
    Options.ofMembers (membersOf as n) = .valid (optionsOf as n) := by
  have hpath := nullable_ofOption Validation.path (g := Path.ofText) (fun _ => rfl)
    (nonempty? (as.value? .output))
  have hname := nullable_ofOption Options.name (g := Text.Raw.sound) (fun _ => rfl)
    (as.value? .contractName)
  rw [Options.ofMembers, optional_eq_valid rfl hpath, optional_eq_valid rfl hname,
    optional_byte rfl]
  rfl

theorem engineSource_request (as : Arguments Key) (v : Settings) :
    (request as as.others).engineSource none v
      = .reference (nonempty? (as.value? .engine) <|> v.engine) := by
  unfold Request.engineSource Request.namedEngine
  cases hvalue : as.value? .engine with
  | none => simp [request, hvalue, Document.ofOption, Document.isYes, nonempty?]
  | some text => simp [request, hvalue, Document.ofOption]

/-- The values of the variables of settings. -/
def presets (context : Context) (texts : List String) (field : String) : Option String :=
  Settings.valueOf? context.host texts (Settings.variableOf field)

theorem exists_version {texts : List String} {n : UInt8}
    (hfollows : Settings.Follows (Settings.valueOf? context.host texts) v)
    (hgiven : ∀ text, as.value? .addressVersion = some text → number? text = some (n.toNat : Int))
    (hsettings : as.value? .addressVersion = none → n = v.addressVersion) :
    Version as (presets context texts) n := by
  have hvariable := hfollows.addressVersion
  cases hvalue : as.value? .addressVersion with
  | some text => exact .ofArgument text hvalue (hgiven text hvalue)
  | none =>
    obtain rfl := hsettings hvalue
    cases htext : Settings.valueOf? context.host texts
      (Settings.variableOf "address_version") with
    | some text =>
      rw [htext] at hvariable
      exact .ofVariable text hvalue htext (byte_eq_valid hvariable)
    | none =>
      rw [htext] at hvariable
      exact .ofDefault hvalue htext (Validation.Checked.valid.inj hvariable).symm

/-- The settings are read once more, which gives the same, and the job follows the arguments and the
variables. -/
theorem exists_asked {texts : List String} (hchecks : Checks context disk as)
    (hsettings : Settings.read context.host disk = .ok (.valid v))
    (hfollows : Settings.Follows (Settings.valueOf? context.host texts) v)
    (hs : Prepared disk s) :
    ∃ j s', (job context (request as as.others)).runFrom s = (.ok j, s') ∧ Prepared disk s'
      ∧ Asked context as (presets context texts) j := by
  obtain ⟨s', hread, hs'⟩ := exists_runFrom_settings hsettings hs
  obtain ⟨n, hmembers, hgiven, hdefault⟩ := exists_members hchecks v
  refine ⟨{
    paths := as.others
    options := optionsOf as n
    engine := (request as as.others).engineSource context.engine v }, s', ?_, hs', ?_⟩
  · rw [job, runFrom_bind_of_ok hread, hmembers]
    simp only [mapError_ok, runFrom_bind, runFrom_ofExcept_ok, ofMembers_membersOf]
    rfl
  · refine ⟨rfl, rfl, rfl, exists_version hfollows hgiven hdefault, fun e he => ?_, fun hnone => ?_⟩
    · simp only [he]
      rfl
    · simp only [hnone]
      rw [engineSource_request, hfollows.engine]
      rfl

end Compile

namespace Program

/-- The program starts on the compile command, whose arguments `rest` are accepted. -/
def Accepts (context : Context) (disk : Disk) (args rest : List String) : Prop :=
  ∃ s₀ r s, Starts context disk args ("compile" :: rest) s₀
    ∧ (Compile.readRequest context rest).runFrom s₀ = (.ok r, s)

/-- The options of the compile command can be told apart. -/
theorem distinct_options : Distinct Compile.options where
  long := by decide
  short := by decide
  named := by decide
  no_equals := by decide
  no_dash := by decide

/-- Arguments that are accepted are spelled by the rules, and lead to a build. -/
theorem exists_building (h : Accepts context disk args rest) :
    ∃ as texts j s, Spelled Compile.options rest as
      ∧ ({} : Settings.Lookup).fileTexts context.host disk = .ok texts
      ∧ Building context disk args j s ∧ Prepared disk s
      ∧ Compile.Asked context as (Compile.presets context texts) j := by
  obtain ⟨s₀, r, s, hstart, hread⟩ := h
  obtain ⟨hs₀, v, hsettings⟩ := prepared_of_starts hstart
  obtain ⟨texts, htexts, hfollows⟩ := Settings.read_eq_valid_iff.1 hsettings
  obtain ⟨hs, as, has, hchecks, rfl⟩ := Compile.prepares_readRequest rest s₀ r s hs₀ hread
  obtain ⟨j, s', hjob, hs', hasked⟩ := Compile.exists_asked hchecks hsettings hfollows hs
  exact ⟨as, texts, j, s', (Arguments.read_eq_ok_iff distinct_options).1 has, htexts,
    ⟨rest, _, s₀, s, hstart, hread, hjob⟩, hs', hasked⟩

/-! ## What the engine is called with -/

variable {target : Target} {t : Trail} {j : Build.Job}

/-- If the inputs of a build resolve, the program makes the call for the target, with the options of
the build, or no call if no engine is loaded. -/
theorem calls_of_building (h : Building context disk args j s) (hs : Prepared disk s)
    (hresolve : (Sources.resolve context.host disk j.paths j.cwd).runFrom {} = (.ok target, t)) :
    ((∃ e t', (Engine.ofSource context.registry j.engine).runFrom t = (.ok e, t')) →
        (run context disk args).2.trail.calls = [Compilation.call target j.options])
      ∧ ((¬ ∃ e t', (Engine.ofSource context.registry j.engine).runFrom t = (.ok e, t')) →
        (run context disk args).2.trail.calls = []) := by
  rcases hbuild : (Build.run context.host context.registry j).runFrom
    { disk := s.disk, trail := s.trail } with ⟨x, u⟩
  have hcalls := Build.calls_run context.host context.registry j
    { disk := s.disk, trail := s.trail }
  rw [hbuild] at hcalls
  rw [← hs.disk, ← hs.trail] at hresolve
  rw [run_of_building h hbuild]
  constructor
  · intro ⟨e, t', hload⟩
    have hloads : Build.Loads context.host context.registry j
      { disk := s.disk, trail := s.trail } target e t' := ⟨t, hresolve, hload⟩
    rw [Build.calls_compile_of_loads hloads] at hcalls
    refine hcalls.trans ?_
    rw [hs.trail]
    rfl
  · intro hnone
    have hnot : ¬ ∃ target e t', Build.Loads context.host context.registry j
        { disk := s.disk, trail := s.trail } target e t' := by
      intro ⟨target', e, t', t₁, hfound, hload⟩
      obtain ⟨-, rfl⟩ := Prod.mk.inj (hresolve.symm.trans hfound)
      exact hnone ⟨e, t', hload⟩
    rw [Build.calls_compile_of_not_loads hnot] at hcalls
    refine hcalls.trans ?_
    rw [hs.trail]

theorem exists_of_isOk {α ε σ : Type} {x : Except ε α × σ} (h : x.1.isOk = true) :
    ∃ a t, x = (.ok a, t) := by
  obtain ⟨f | a, t⟩ := x
  · simp [Except.isOk, Except.toBool] at h
  · exact ⟨a, t, rfl⟩

theorem accepts_of_isOk
    (hstart : ((start context args).runFrom { disk }).1 = .ok ("compile" :: rest))
    (hread : ((Compile.readRequest context rest).runFrom
      ((start context args).runFrom { disk }).2).1.isOk = true) :
    Accepts context disk args rest := by
  obtain ⟨r, s, hrun⟩ := exists_of_isOk hread
  exact ⟨_, r, s, Prod.ext hstart rfl, hrun⟩

end Program

end ContractBuild.Command
