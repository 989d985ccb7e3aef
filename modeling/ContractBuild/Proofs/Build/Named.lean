import ContractBuild.Proofs.Artifact.Failures
import ContractBuild.Proofs.Build.Naming
import ContractBuild.Proofs.Build.Stages
import ContractBuild.Proofs.Compilation

/-!
# Builds write under a name

A build has a name for the contract before it writes anything: what the engine calls it, else the
configured name, else the name of what the inputs resolved to. So whoever writes the artifacts
never sees an unsuccessful compilation or a missing name, and what it would do then has no part in
any build (`always_named`).

That a branch is never reached is said by exchanging it: `writeRefusing` is the writer with
whatever is to be done in the three places where it does not write, and a build comes to the same
with every choice for them (`runDelivering_congr`). The writer itself is one of these choices
(`write_eq_writeRefusing`), so this is about the build as it stands.

A layout takes every such name but those that cannot be encoded. Nothing on the way from the
engine or the options to the layout looks at the encoding of a name, so such a name is met by the
layout, and the build ends in a validation error instead of an outcome (`loose_name_refused`).
This is the one choice that counts, and `run_eq_misnamed` says that it is made whenever there is a
folder.
-/

namespace ContractBuild

/-! ## What is never refused -/

namespace Artifact

/-- What is done where artifacts are not written because of what is to be written: after a
compilation that was no success, without a name, or under a name that no layout takes. -/
structure Refusing where
  unsuccessful : Running Layout
  nameless : Running Layout
  invalid : List Validation.Issue → Running Layout

/-- Writes artifacts, and does what is given where they are not written. -/
def writeRefusing (refusing : Refusing) (host : Host) (r : Compiled) (options : Options)
    (fallback : Path) (name : Value) : Running Layout :=
  if !r.success then refusing.unsuccessful
  else
    match fileName? name r options with
    | none => refusing.nameless
    | some name => do
      let folder := options.outputFolder fallback
      prepareFolder host folder
      match Layout.ofName folder name with
      | .invalid issues => refusing.invalid issues
      | .valid l =>
        let files ← writeAll host r l (plan options)
        Running.writeLine .out completedLine
        Running.record (writtenRecord folder files.length)
        return { l with files }

/-- Misuse and invalid names are failures. -/
def Refusing.failing : Refusing where
  unsuccessful := Running.fail (.misuse .unsuccessful)
  nameless := Running.fail (.misuse .nameless)
  invalid issues := Running.fail (.invalid issues)

theorem write_eq_writeRefusing : write = writeRefusing .failing := rfl

/-- Alternatives that take a name that cannot be encoded in the same way. -/
def Refusing.SameOn (name : Text.Raw) (refusing refusing' : Refusing) : Prop :=
  ∀ t, name = .loose t → refusing.invalid [looseName] = refusing'.invalid [looseName]

/-- After a success and under a name, only the encoding of the name is refused. -/
theorem writeRefusing_of_named {refusing refusing' : Refusing} (host : Host) {r : Compiled}
    (options : Options) (fallback : Path) {name : Text.Raw} (hsuccess : r.success = true)
    (hname : name ≠ .sound "") (hsame : refusing.SameOn name refusing') :
    writeRefusing refusing host r options fallback (.ofRaw name)
      = writeRefusing refusing' host r options fallback (.ofRaw name) := by
  simp only [writeRefusing, hsuccess, fileName?_ofRaw hname, Bool.not_true, Bool.false_eq_true,
    if_false]
  cases name with
  | sound name =>
    have hne : name ≠ "" := fun h => hname (congrArg _ h)
    simp only [Value.ofRaw, ofName_str _ hne]
  | loose t => simp only [Value.ofRaw, ofName_loose, hsame t rfl]

end Artifact

namespace Build

variable {host : Host} {registry : Engine.Registry} {job : Job} {s : Run}

/-- Delivers what was compiled, and does what is given where nothing is written. -/
def deliverRefusing (refusing : Artifact.Refusing) (host : Host) (job : Job) (target : Target)
    (r : Compiled) : Running Layout := do
  if !r.success then Running.refuse .failedCompilation
  let options ← Running.attempt
    (Attempt.ofExcept (anchorOutput host (← get).disk job.options job.cwd))
  Artifact.writeRefusing refusing host r options target.folder
    (Compilation.effectiveName r.contractName job.options (.target target))

theorem deliver_eq_deliverRefusing (host : Host) (job : Job) :
    deliver host job = deliverRefusing .failing host job := by
  unfold deliver
  rw [Artifact.write_eq_writeRefusing]
  rfl

/-- Runs a build that delivers what was compiled in a way of its own. -/
def runDelivering (host : Host) (registry : Engine.Registry) (job : Job)
    (deliver : Target → Compiled → Running Layout) : Running Outcome := do
  let disk := (← get).disk
  match ← Running.catchRefusal (Running.attempt (compile host registry disk job)) with
  | .error r => conclude r []
  | .ok (target, compiled) =>
    Report.report compiled.diagnostics
    match ← Running.catchRefusal (deliver target compiled) with
    | .error r => conclude r compiled.diagnostics
    | .ok l =>
      finish { status := .succeeded, layout := some l, diagnostics := compiled.diagnostics }

theorem run_eq_runDelivering (host : Host) (registry : Engine.Registry) (job : Job) :
    run host registry job = runDelivering host registry job (deliver host job) := rfl

/-- Only the delivery of what was compiled counts, after its report. -/
theorem runDelivering_congr {deliver deliver' : Target → Compiled → Running Layout}
    (h : ∀ target r t, (compile host registry s.disk job).runFrom s.trail = (.ok (target, r), t) →
      (deliver target r).runFrom (reported s t r.diagnostics)
        = (deliver' target r).runFrom (reported s t r.diagnostics)) :
    (runDelivering host registry job deliver).runFrom s
      = (runDelivering host registry job deliver').runFrom s := by
  unfold runDelivering
  simp only [Running.runFrom_bind, Running.runFrom_get, Running.runFrom_catchRefusal,
    Running.runFrom_attempt]
  rcases hcompile : (compile host registry s.disk job).runFrom s.trail with ⟨f | ⟨target, r⟩, t⟩
  · cases f <;> rfl
  · simp only [Running.runFrom_bind, runFrom_report, Running.runFrom_catchRefusal,
      h target r t hcompile]

/-- A delivery whose artifacts have a name. -/
theorem deliverRefusing_of_named {refusing refusing' : Artifact.Refusing} {target : Target}
    {r : Compiled} {name : Text.Raw} (hname : name ≠ .sound "")
    (heffective : Compilation.effectiveName r.contractName job.options (.target target)
      = .ofRaw name)
    (hsame : refusing.SameOn name refusing') :
    deliverRefusing refusing host job target r = deliverRefusing refusing' host job target r := by
  unfold deliverRefusing
  rw [heffective]
  cases hsuccess : r.success with
  | false => rfl
  | true => simp only [Artifact.writeRefusing_of_named host _ _ hsuccess hname hsame]

/-- An answer whose name cannot be encoded reaches the layout once the output folder is there. -/
theorem run_eq_misnamed {target : Target} {r : Compiled} {t : Trail} {options : Options}
    {u : Text.Loose} {d : Disk}
    (hcompile : (compile host registry s.disk job).runFrom s.trail = (.ok (target, r), t))
    (hsuccess : r.success = true)
    (hanchor : anchorOutput host s.disk job.options job.cwd = .ok options)
    (hmade : s.disk.ensureFolders host.cwd (options.outputFolder target.folder) = (.ok (), d))
    (hname : Compilation.effectiveName r.contractName job.options (.target target) = .loose u) :
    ∃ s', (run host registry job).runFrom s = (.error (.invalid [Artifact.looseName]), s') := by
  have hanchor' : anchorOutput host (reported s t r.diagnostics).disk job.options job.cwd
      = .ok options := hanchor
  have hfolder := Artifact.prepareFolder_eq_ok_iff.2
    ⟨d, (show (reported s t r.diagnostics).disk.ensureFolders host.cwd _ = _ from hmade), rfl⟩
  have hgiven : Text.Raw.loose u ≠ .sound "" := by simp
  have hchosen := Artifact.fileName?_ofRaw hgiven r options
  have hwrite := Artifact.write_iff.2
    (.misnamed hsuccess hchosen hfolder (Artifact.ofName_loose _ u))
  have hdeliver : (deliver host job target r).runFrom (reported s t r.diagnostics)
      = (.error (.invalid [Artifact.looseName]), { reported s t r.diagnostics with disk := d }) := by
    rw [runFrom_deliver, hsuccess, hanchor', hname]
    exact hwrite
  exact ⟨_, run_iff.2 (.brokenLate hcompile hdeliver (by simp))⟩

/-- The engine of a build names contracts by texts or not at all. -/
def NamesByText (host : Host) (registry : Engine.Registry) (job : Job) (s : Run) : Prop :=
  ∀ target r t, (compile host registry s.disk job).runFrom s.trail = (.ok (target, r), t) →
    ∃ given, r.contractName = .ofOption given

/-- Whatever inputs resolve to, the contract has a name: what the engine calls it, else the
configured name, else the name of what was resolved. So a build whose engine answers with a text or
null for a name comes to the same, whatever is done after an unsuccessful compilation, without a
name, or under a name that no layout takes, the names aside that cannot be encoded. A successful
compilation under one of these ends in the validation error of the layout as soon as there is a
folder. -/
theorem always_named (host : Host) :
    (∀ disk paths cwd target t t',
      (Sources.resolve host disk paths cwd).runFrom t = (.ok target, t') →
        ∀ given options, ∃ name,
          firstGiven (given :: options.contractName :: target.ownNames) = some name
            ∧ name ≠ .sound ""
            ∧ Compilation.effectiveName (.ofOption given) options (.target target) = .ofRaw name)
      ∧ (∀ registry job s, NamesByText host registry job s →
        ∀ refusing : Artifact.Refusing,
          (∀ target r t u,
            (compile host registry s.disk job).runFrom s.trail = (.ok (target, r), t) →
              Compilation.effectiveName r.contractName job.options (.target target) = .loose u →
                refusing.invalid [Artifact.looseName]
                  = Artifact.Refusing.failing.invalid [Artifact.looseName]) →
          (runDelivering host registry job (deliverRefusing refusing host job)).runFrom s
            = (run host registry job).runFrom s)
      ∧ ∀ registry job s target r t options d u,
        (compile host registry s.disk job).runFrom s.trail = (.ok (target, r), t) →
          r.success = true →
          anchorOutput host s.disk job.options job.cwd = .ok options →
          s.disk.ensureFolders host.cwd (options.outputFolder target.folder) = (.ok (), d) →
          Compilation.effectiveName r.contractName job.options (.target target) = .loose u →
            ∃ s', (run host registry job).runFrom s
              = (.error (.invalid [Artifact.looseName]), s') := by
  refine ⟨?_, ?_, fun _ _ _ _ _ _ _ _ _ => run_eq_misnamed⟩
  · intro disk paths cwd target t t' hresolve given options
    exact Compilation.effectiveName_ofOption (Sources.defaultName_of_resolve hresolve) given options
  · intro registry job s hnames refusing hloose
    rw [run_eq_runDelivering, deliver_eq_deliverRefusing]
    refine runDelivering_congr fun target r t hcompile => ?_
    obtain ⟨t₁, e, t₂, hresolve, -⟩ := compile_eq_ok_iff.1 hcompile
    obtain ⟨given, hgiven⟩ := hnames target r t hcompile
    obtain ⟨name, -, hname, heffective⟩ := Compilation.effectiveName_ofOption
      (Sources.defaultName_of_resolve hresolve) given job.options
    rw [← hgiven] at heffective
    have hsame : refusing.SameOn name .failing := by
      rintro u rfl
      exact hloose target r t u hcompile heffective
    rw [deliverRefusing_of_named hname heffective hsame]

/-- An engine that is handed in, and names contracts by texts or not at all, does so in a build. -/
theorem namesByText_of_engine {e : Engine} (hjob : job.engine = .given e)
    (he : ∀ call r, e.compile call = .ok r → ∃ given, r.contractName = .ofOption given) :
    NamesByText host registry job s := by
  intro target r t h
  obtain ⟨t₁, e', t₂, -, hload, hrun⟩ := compile_eq_ok_iff.1 h
  obtain rfl : e' = e := by
    simpa [hjob, Engine.ofSource, eq_comm] using (congrArg Prod.fst hload)
  exact he _ r (Compilation.run_eq_ok_iff.1 hrun).1

/-- A source directly in the root, from an engine that names nothing. -/
theorem root_source_named :
    let host : Host := { cwd := [], homes := ⟨"/", []⟩ }
    let engine : Engine := ({ contractName := .null } : Canned).engine
    let job : Job := { paths := ["Token.cs"], engine := .given engine }
    let s : Run := { disk := Disk.empty.put ["Token.cs"] (.file []) }
    let root : Path := .ofComponents .root []
    let target : Target := .sources ⟨[root.joinText "Token.cs"], List.cons_ne_nil _ _, root⟩
    let reached : Running Layout := Running.fail .homeless
    ((Sources.resolve host s.disk job.paths job.cwd).runFrom {}).1 = .ok target
      ∧ (∃ name, firstGiven (none :: none :: target.ownNames) = some name ∧ name ≠ .sound ""
        ∧ Compilation.effectiveName .null {} (.target target) = .ofRaw name)
      ∧ firstGiven (none :: none :: target.ownNames) = some (.sound "Contract")
      ∧ (runDelivering host {} job
          (deliverRefusing ⟨reached, reached, fun _ => reached⟩ host job)).runFrom s
        = (run host {} job).runFrom s := by
  intro host engine job s root target reached
  have hresolve : ((Sources.resolve host s.disk job.paths job.cwd).runFrom {}).1 = .ok target := by
    decide +kernel
  have hnames : ∀ call r, engine.compile call = .ok r →
      ∃ given, r.contractName = .ofOption given := by
    intro call r h
    obtain rfl := Except.ok.inj h
    simp only [Canned.answer, Canned.nameFor]
    split
    next name _ _ => exact ⟨some name, rfl⟩
    next => exact ⟨none, rfl⟩
  obtain ⟨hnamed, hsame, -⟩ := always_named host
  refine ⟨hresolve, hnamed s.disk job.paths job.cwd target {} _ (Prod.ext hresolve rfl) none {},
    by decide, hsame {} job s (namesByText_of_engine rfl hnames) _ ?_⟩
  -- no name is given, so the name is one of a path, which can be encoded
  intro target r t u hcompile hloose
  obtain ⟨t₁, e, t₂, -, hload, hrun⟩ := compile_eq_ok_iff.1 hcompile
  obtain rfl : engine = e := Except.ok.inj (congrArg Prod.fst hload)
  obtain rfl := Except.ok.inj (Compilation.run_eq_ok_iff.1 hrun).1
  rw [Compilation.options_call] at hloose
  have hown : Value.str (Mode.target target).defaultName = .loose u := hloose
  simp at hown

/-- A name that is one half of a surrogate pair ends a build in a validation error, and the empty
output folder stays. -/
theorem loose_name_refused :
    let host : Host := { cwd := ["w"], homes := ⟨"/", []⟩ }
    let name : Text.Loose := { before := "", half := 0, rest := [] }
    let engine : Engine := ({ contractName := .loose name } : Canned).engine
    let job : Job := { paths := ["Token.cs"], engine := .given engine }
    let s : Run := { disk := (Disk.empty.put ["w"] .folder).put ["w", "Token.cs"] (.file []) }
    let x := (run host {} job).runFrom s
    x.1 = .error (.invalid [Artifact.looseName])
      ∧ x.2.disk.get? ["w", "bin", "sc"] = some .folder := by
  decide +kernel

end Build

end ContractBuild
