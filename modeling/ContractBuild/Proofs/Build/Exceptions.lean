import ContractBuild.Proofs.Artifact.Failures
import ContractBuild.Proofs.Build.Endings
import ContractBuild.Proofs.Build.Naming
import ContractBuild.Proofs.Path.Text
import ContractBuild.Proofs.Sources.Failures

/-!
# Builds that end without an outcome

A build is meant to end in an outcome whatever happens. With an engine that does its part it ends
without one exactly in the ways of `Escape` (`run_escapes_iff`): a path that is too long to be
tested, a directory that cannot be listed, a home directory that is not known, a working directory
that is gone, the null character where a file is to be opened, a contract name that cannot be
encoded, and a file that does not take its content, be it an archive or a listing that cannot be
encoded.

An engine does its part if it answers every call, and if its producers give values that have a
content (`Engine.Behaves`). Then the compilation itself lets nothing escape, and two stages are
left: resolving, whose failures are those of `Sources.Fails`, and the delivery, whose failures
come from the output directory or from writing the artifacts (`Proofs.Artifact.Failures`).
Refusals among these are outcomes, since every refusal that can be made here has a status.

What the operating system refuses while a file is written is not among them: every such refusal
ends in an outcome (`run_ne_system`).

The list is complete for the disks of this library, on which nothing is forbidden and no directory
is too deep to be walked.
-/

namespace ContractBuild

/-- An engine that does its part: it answers every call, with a name and contents as they should
be. -/
def Engine.Behaves (e : Engine) : Prop := ∀ call, ∃ r, e.compile call = .ok r ∧ r.Behaves

theorem Compiled.Behaves.noRefusals {r : Compiled} (h : r.Behaves) : r.NoRefusals := by
  intro a x hx
  obtain ⟨d, hd, -⟩ := h.produces a
  simp [hd] at hx

/-- The engine that does its part whatever it is asked. -/
theorem Canned.behaves_engine : ({} : Canned).engine.Behaves := by
  intro call
  obtain ⟨name, hname⟩ : ∃ name, ({} : Canned).nameFor call.options = .ofRaw name := by
    unfold nameFor
    split
    next => exact ⟨_, rfl⟩
    next => exact ⟨"Token", rfl⟩
  refine ⟨_, rfl, ⟨some name, hname⟩, fun a => ⟨_, rfl, fun l => ?_⟩⟩
  rw [hname]
  -- the documents made from a name show its halves written out
  cases name <;> cases a <;> exact ⟨_, rfl⟩

namespace Build

variable {host : Host} {registry : Engine.Registry} {job : Job} {s : Run} {f : Failure}
variable {target : Target} {e : Engine} {r : Compiled} {t : Trail} {s₁ : Run}

/-- Artifacts are written under a name that is not empty. -/
theorem exists_writtenName (hr : r.Behaves)
    (h : Answers host registry job s target r s₁) :
    ∃ name : Text.Raw, name ≠ .sound "" ∧ writtenName job target r = .ofRaw name := by
  obtain ⟨e, t, ⟨t₁, hresolve, -⟩, -⟩ := h
  obtain ⟨given, hgiven⟩ := hr.named
  obtain ⟨name, -, hname, heffective⟩ := Compilation.effectiveName_ofOption
    (Sources.defaultName_of_resolve hresolve) given job.options
  rw [writtenName, hgiven]
  exact ⟨name, hname, heffective⟩

/-- The ways in which a build of an engine that does its part ends without an outcome, each with the
failure that it ends in. -/
inductive Escape (host : Host) (registry : Engine.Registry) (job : Job) (s : Run) : Failure → Prop
  /-- The inputs are neither resolved nor refused. -/
  | unresolved {f : Failure} (hfails : Sources.Fails host s.disk job.paths job.cwd f) :
    Escape host registry job s f
  /-- The output directory has no absolute form. -/
  | unanchored {target : Target} {r : Compiled} {s₁ : Run} {p base : Path} {f : Failure}
    (hanswers : Answers host registry job s target r s₁) (hsuccess : r.success = true)
    (hgiven : job.options.outputDirectory = some p) (hbase : host.base s.disk job.cwd = .ok base)
    (habsolute : host.absolute p base = .error f) : Escape host registry job s f
  /-- The null character occurs in the output folder. -/
  | nulFolder {target : Target} {r : Compiled} {s₁ : Run} {options : Options}
    (hanswers : Answers host registry job s target r s₁) (hsuccess : r.success = true)
    (hanchor : anchorOutput host s.disk job.options job.cwd = .ok options)
    (hnul : (options.outputFolder target.folder).hasNul = true) :
    Escape host registry job s .nulInPath
  /-- The output folder is there, and the null character occurs in the name of the contract. -/
  | nulName {target : Target} {r : Compiled} {s₁ : Run} {options : Options} {d : Disk}
    {name : String} (hanswers : Answers host registry job s target r s₁)
    (hsuccess : r.success = true)
    (hanchor : anchorOutput host s.disk job.options job.cwd = .ok options)
    (hmade : s₁.disk.ensureFolders host.cwd (options.outputFolder target.folder) = (.ok (), d))
    (hname : writtenName job target r = .str name) (hnul : '\x00' ∈ name.toList) :
    Escape host registry job s .nulInPath
  /-- The output folder is there, and the name of the contract cannot be encoded. -/
  | looseName {target : Target} {r : Compiled} {s₁ : Run} {options : Options} {d : Disk}
    {t : Text.Loose} (hanswers : Answers host registry job s target r s₁)
    (hsuccess : r.success = true)
    (hanchor : anchorOutput host s.disk job.options job.cwd = .ok options)
    (hmade : s₁.disk.ensureFolders host.cwd (options.outputFolder target.folder) = (.ok (), d))
    (hname : writtenName job target r = .loose t) :
    Escape host registry job s (.invalid [Artifact.looseName])
  /-- The file of an artifact is opened and does not take its content. -/
  | unfilled {target : Target} {r : Compiled} {s₁ : Run} {options : Options} {l : Layout}
    {a : Artifact} {f : Failure} (hanswers : Answers host registry job s target r s₁)
    (hsuccess : r.success = true)
    (hanchor : anchorOutput host s.disk job.options job.cwd = .ok options)
    (hl : Layout.ofName (options.outputFolder target.folder) (writtenName job target r) = .valid l)
    (hfails : Artifact.FillFails host r options s₁ l a f) : Escape host registry job s f

/-! ## Up to the answer of the engine -/

/-- Nothing is compiled only because the inputs do not resolve. -/
theorem compile_fails_iff {d : Disk} {t t' : Trail} (he : e.Behaves)
    (hjob : job.engine = .given e) :
    (compile host registry d job).runFrom t = (.error f, t') ↔
      (Sources.resolve host d job.paths job.cwd).runFrom t = (.error f, t') := by
  rw [compile_eq_error_iff]
  refine ⟨fun h => ?_, .inl⟩
  rcases h with hresolve | ⟨target, t₁, -, hload | ⟨e', t₂, hload, hrun⟩⟩
  · exact hresolve
  · simp [hjob, Engine.ofSource] at hload
  · obtain rfl : e' = e := by
      simpa [hjob, Engine.ofSource, eq_comm] using (congrArg Prod.fst hload)
    obtain ⟨r, hcall, -⟩ := he (Compilation.call target job.options)
    rw [Prod.ext_iff, (Prod.ext_iff.1 (Compilation.run_eq_ok_iff.2 ⟨hcall, rfl⟩)).1] at hrun
    simp at hrun

theorem behaves_of_answers (he : e.Behaves) (hjob : job.engine = .given e)
    (h : Answers host registry job s target r s₁) : r.Behaves := by
  obtain ⟨e', t, ⟨t₁, -, hload⟩, hcall, -⟩ := h
  obtain rfl : e' = e := by
    simpa [hjob, Engine.ofSource, eq_comm] using (congrArg Prod.fst hload)
  obtain ⟨r', hcall', hr⟩ := he (Compilation.call target job.options)
  obtain rfl := Except.ok.inj (hcall.symm.trans hcall')
  exact hr

/-! ## From the answer of the engine on -/

/-- The output directory has no absolute form, although there is a base directory. -/
theorem anchorOutput_eq_error_iff {d : Disk} {base : Path}
    (hbase : host.base d job.cwd = .ok base) :
    anchorOutput host d job.options job.cwd = .error f ↔
      ∃ p, job.options.outputDirectory = some p ∧ host.absolute p base = .error f := by
  unfold anchorOutput
  cases job.options.outputDirectory with
  | none => simp
  | some p =>
    rw [hbase]
    cases h : host.absolute p base <;> simp [h, bind, Except.bind, pure, Except.pure]

theorem exists_base_of_answers (h : Answers host registry job s target r s₁) :
    ∃ base, host.base s.disk job.cwd = .ok base := by
  obtain ⟨e, t, ⟨t₁, hresolve, -⟩, -⟩ := h
  obtain ⟨request, t₂, hclassify, -⟩ := Attempt.runFrom_bind_eq_ok_iff.1 hresolve
  obtain ⟨base, hbase, -⟩ := bind_eq_ok_iff.1 (congrArg Prod.fst hclassify)
  exact ⟨base, hbase⟩

/-- Artifacts are not delivered, and not because something was refused. -/
theorem deliver_fails_iff (hf : ∀ x, f ≠ .refused x) :
    (∃ s', (deliver host job target r).runFrom s = (.error f, s')) ↔
      r.success = true ∧ (anchorOutput host s.disk job.options job.cwd = .error f
        ∨ ∃ options, anchorOutput host s.disk job.options job.cwd = .ok options
          ∧ ∃ s', (Artifact.write host r options target.folder (writtenName job target r)).runFrom s
            = (.error f, s')) := by
  have hfailed : Failure.refused .failedCompilation ≠ f := (hf _).symm
  rw [runFrom_deliver]
  cases r.success with
  | false => simp [hfailed]
  | true =>
    simp only [Bool.not_true, Bool.false_eq_true, if_false, true_and]
    cases anchorOutput host s.disk job.options job.cwd <;> simp [writtenName]

/-- Whatever a delivery refuses ends the build in a status. -/
theorem status?_of_deliver {x : Refusal} {s' : Run} (hr : r.NoRefusals)
    (h : (deliver host job target r).runFrom s = (.error (.refused x), s')) : x.status? ≠ none := by
  rcases deliver_refuses_iff.1 ⟨s', h⟩ with ⟨-, rfl⟩ | ⟨-, options, -, hwrite⟩
  · simp [Refusal.failedCompilation, Refusal.status?]
  · obtain ⟨-, chosen, -, ⟨-, rfl⟩ | ⟨l, a, -, -, rfl⟩⟩ := (Artifact.write_refuses_iff hr).1 hwrite
    · simp [Refusal.status?]
    · simp [Artifact.refusal, Refusal.status?]

/-- A refusal with a status is concluded in an outcome. -/
theorem conclude_ne_error {x : Refusal} {ds : List Diagnostic} {s s' : Run}
    (hx : x.status? ≠ none) : (conclude x ds).runFrom s ≠ (.error f, s') := by
  rw [runFrom_conclude]
  cases hstatus : x.status? with
  | none => exact absurd hstatus hx
  | some status => simp

/-! ## The whole build -/

/-- None of these failures is a refusal. -/
theorem Escape.ne_refused (h : Escape host registry job s f) (x : Refusal) : f ≠ .refused x := by
  cases h with
  | unresolved hfails => exact hfails.ne_refused x
  | unanchored _ _ _ _ habsolute =>
    exact (habsolute ▸ Sources.ends_absolute _ _).ne_refused x
  | unfilled _ _ _ _ hfails =>
    obtain ⟨y, rfl⟩ := hfails.exists_foreign
    simp
  | _ => simp

theorem disk_of_answers (h : Answers host registry job s target r s₁) : s₁.disk = s.disk := by
  obtain ⟨t, -, rfl⟩ := answers_iff.1 h
  rfl

/-- After an answer that tells of success, a writing that fails is a delivery that fails. -/
theorem deliver_fails_of_write {options : Options} (hf : ∀ x, f ≠ .refused x)
    (hanswers : Answers host registry job s target r s₁) (hsuccess : r.success = true)
    (hanchor : anchorOutput host s.disk job.options job.cwd = .ok options)
    (h : ∃ s', (Artifact.write host r options target.folder (writtenName job target r)).runFrom s₁
      = (.error f, s')) :
    ∃ s', (deliver host job target r).runFrom s₁ = (.error f, s') := by
  rw [← disk_of_answers hanswers] at hanchor
  exact (deliver_fails_iff hf).2 ⟨hsuccess, .inr ⟨options, hanchor, h⟩⟩

/-- Whatever escapes is a failure of one of the two halves of a build. -/
theorem Escape.resolve_or_deliver (he : e.Behaves) (hjob : job.engine = .given e)
    (h : Escape host registry job s f) :
    Sources.Fails host s.disk job.paths job.cwd f
      ∨ ∃ target r s₁, Answers host registry job s target r s₁
        ∧ ∃ s', (deliver host job target r).runFrom s₁ = (.error f, s') := by
  have hf := h.ne_refused
  cases h with
  | unresolved hfails => exact .inl hfails
  | @unanchored target r s₁ p base _ hanswers hsuccess hgiven hbase habsolute =>
    have hanchor := (anchorOutput_eq_error_iff hbase).2 ⟨p, hgiven, habsolute⟩
    rw [← disk_of_answers hanswers] at hanchor
    exact .inr ⟨target, r, s₁, hanswers, (deliver_fails_iff hf).2 ⟨hsuccess, .inl hanchor⟩⟩
  | @nulFolder target r s₁ options hanswers hsuccess hanchor hnul =>
    have hr := behaves_of_answers he hjob hanswers
    obtain ⟨name, hname, hwritten⟩ := exists_writtenName hr hanswers
    refine .inr ⟨target, r, s₁, hanswers,
      deliver_fails_of_write hf hanswers hsuccess hanchor ?_⟩
    rw [hwritten]
    exact (Artifact.write_fails_iff hr hsuccess hname hf).2 (.inl ⟨rfl, hnul⟩)
  | @nulName target r s₁ options d name hanswers hsuccess hanchor hmade hwritten hnul =>
    have hr := behaves_of_answers he hjob hanswers
    have hname : (name : Text.Raw) ≠ .sound "" := by
      rintro h
      simp [Text.Raw.sound.inj h] at hnul
    refine .inr ⟨target, r, s₁, hanswers,
      deliver_fails_of_write hf hanswers hsuccess hanchor ?_⟩
    rw [hwritten]
    exact (Artifact.write_fails_iff hr hsuccess hname hf).2
      (.inr (.inl ⟨⟨d, hmade⟩, .inl ⟨rfl, name, rfl, hnul⟩⟩))
  | @looseName target r s₁ options d t hanswers hsuccess hanchor hmade hwritten =>
    have hr := behaves_of_answers he hjob hanswers
    refine .inr ⟨target, r, s₁, hanswers,
      deliver_fails_of_write hf hanswers hsuccess hanchor ?_⟩
    have hname : Text.Raw.loose t ≠ .sound "" := by simp
    rw [hwritten]
    exact (Artifact.write_fails_iff hr hsuccess hname hf).2
      (.inr (.inl ⟨⟨d, hmade⟩, .inr ⟨rfl, t, rfl⟩⟩))
  | @unfilled target r s₁ options l a _ hanswers hsuccess hanchor hl hfails =>
    have hr := behaves_of_answers he hjob hanswers
    obtain ⟨name, hname, hwritten⟩ := exists_writtenName hr hanswers
    refine .inr ⟨target, r, s₁, hanswers,
      deliver_fails_of_write hf hanswers hsuccess hanchor ?_⟩
    rw [hwritten] at hl ⊢
    exact (Artifact.write_fails_iff hr hsuccess hname hf).2 (.inr (.inr ⟨l, a, hl, hfails⟩))

/-- What a delivery fails with escapes, unless it was refused. -/
theorem escape_of_deliver (he : e.Behaves) (hjob : job.engine = .given e)
    (hf : ∀ x, f ≠ .refused x) (hanswers : Answers host registry job s target r s₁)
    (h : ∃ s', (deliver host job target r).runFrom s₁ = (.error f, s')) :
    Escape host registry job s f := by
  have hr := behaves_of_answers he hjob hanswers
  obtain ⟨base, hbase⟩ := exists_base_of_answers hanswers
  obtain ⟨name, hname, hwritten⟩ := exists_writtenName hr hanswers
  obtain ⟨hsuccess, hdeliver⟩ := (deliver_fails_iff hf).1 h
  rw [disk_of_answers hanswers, hwritten] at hdeliver
  rcases hdeliver with hanchor | ⟨options, hanchor, hwrite⟩
  · obtain ⟨p, hgiven, habsolute⟩ := (anchorOutput_eq_error_iff hbase).1 hanchor
    exact .unanchored hanswers hsuccess hgiven hbase habsolute
  · rcases (Artifact.write_fails_iff hr hsuccess hname hf).1 hwrite with
      ⟨rfl, hnul⟩ | ⟨⟨d, hmade⟩, ⟨rfl, given, rfl, hnul⟩ | ⟨rfl, t, rfl⟩⟩ | ⟨l, a, hl, hfails⟩
    · exact .nulFolder hanswers hsuccess hanchor hnul
    · exact .nulName hanswers hsuccess hanchor hmade hwritten hnul
    · exact .looseName hanswers hsuccess hanchor hmade hwritten
    · exact .unfilled hanswers hsuccess hanchor (hwritten ▸ hl) hfails

/-- A build fails if the compilation or the delivery does, and not because something was refused. -/
theorem run_fails_iff (hf : ∀ x, f ≠ .refused x) :
    (∃ s', (run host registry job).runFrom s = (.error f, s')) ↔
      (∃ t, (compile host registry s.disk job).runFrom s.trail = (.error f, t))
        ∨ ∃ target r s₁, Answers host registry job s target r s₁
          ∧ ∃ s', (deliver host job target r).runFrom s₁ = (.error f, s') := by
  have hconclude : ∀ {x ds} {s₁ s' : Run}, (conclude x ds).runFrom s₁ ≠ (.error f, s') := by
    intro x ds s₁ s' h
    rw [runFrom_conclude] at h
    split at h
    next => simp at h
    next => exact hf x (Except.error.inj (congrArg Prod.fst h)).symm
  constructor
  · rintro ⟨s', h⟩
    cases run_iff.1 h with
    | refused _ hend => exact absurd hend hconclude
    | broken hcompile => exact .inl ⟨_, hcompile⟩
    | refusedLate _ _ hend => exact absurd hend hconclude
    | @brokenLate target r t _ _ hcompile hdeliver =>
      exact .inr ⟨target, r, _, answers_iff.2 ⟨t, hcompile, rfl⟩, _, hdeliver⟩
  · rintro (⟨t, hcompile⟩ | ⟨target, r, s₁, hanswers, s', hdeliver⟩)
    · exact ⟨_, run_iff.2 (.broken hcompile hf)⟩
    · obtain ⟨t, hcompile, rfl⟩ := answers_iff.1 hanswers
      exact ⟨_, run_iff.2 (.brokenLate hcompile hdeliver hf)⟩

/-- Whatever a build with such an engine refuses becomes an outcome. -/
theorem run_ne_refused (he : e.Behaves) (hjob : job.engine = .given e) {s' : Run}
    (h : (run host registry job).runFrom s = (.error f, s')) (x : Refusal) : f ≠ .refused x := by
  cases run_iff.1 h with
  | @refused y t _ _ hcompile hend =>
    have hresolve := (compile_fails_iff he hjob).1 hcompile
    have hrefuses := (Sources.ends_resolve job.paths job.cwd).of_refused hresolve
    refine absurd hend (conclude_ne_error ?_)
    cases y <;> first | exact absurd hrefuses id | simp [Refusal.status?]
  | broken _ hf => exact hf x
  | @refusedLate target r t y _ _ _ hcompile hdeliver hend =>
    have hr := behaves_of_answers he hjob (answers_iff.2 ⟨t, hcompile, rfl⟩)
    exact absurd hend (conclude_ne_error (status?_of_deliver hr.noRefusals hdeliver))
  | brokenLate _ _ hf => exact hf x

/-- Once the inputs resolve and the output directory has an absolute form, whatever the operating
system says becomes part of an outcome. -/
theorem run_ne_system (he : e.Behaves) (hjob : job.engine = .given e) {options : Options}
    {s' : Run} {n : Errno}
    (hresolve : (Sources.resolve host s.disk job.paths job.cwd).runFrom s.trail = (.ok target, t))
    (hanchor : anchorOutput host s.disk job.options job.cwd = .ok options) :
    (run host registry job).runFrom s ≠ (.error (.system n), s') := by
  intro h
  have hf : ∀ x, Failure.system n ≠ .refused x := by simp
  rcases (run_fails_iff hf).1 ⟨s', h⟩ with ⟨t', hcompile⟩ | hdeliver
  · rw [(compile_fails_iff he hjob).1 hcompile] at hresolve
    simp at hresolve
  · obtain ⟨_, _, _, hanswers, hdeliver⟩ := hdeliver
    cases escape_of_deliver he hjob hf hanswers hdeliver with
    | unresolved hfails =>
      obtain ⟨t', hfailed⟩ := (Sources.resolve_fails_iff (t := s.trail) hf).2 hfails
      rw [hfailed] at hresolve
      simp at hresolve
    | unanchored _ _ hgiven hbase habsolute =>
      rw [(anchorOutput_eq_error_iff hbase).2 ⟨_, hgiven, habsolute⟩] at hanchor
      simp at hanchor
    | unfilled _ _ _ _ hfails =>
      obtain ⟨y, hy⟩ := hfails.exists_foreign
      simp at hy

/-- With an engine that does its part, a build ends without an outcome in these ways and in no
other, and returns an outcome in all other cases. -/
theorem run_escapes_iff (he : e.Behaves) (hjob : job.engine = .given e) :
    (∀ f, (∃ s', (run host registry job).runFrom s = (.error f, s')) ↔
        Escape host registry job s f)
      ∧ ((∃ o s', (run host registry job).runFrom s = (.ok o, s')) ↔
        ∀ f, ¬ Escape host registry job s f) := by
  have hescapes : ∀ f, (∃ s', (run host registry job).runFrom s = (.error f, s')) ↔
      Escape host registry job s f := by
    intro f
    constructor
    · rintro ⟨s', h⟩
      have hf := run_ne_refused he hjob h
      rcases (run_fails_iff hf).1 ⟨s', h⟩ with ⟨t, hcompile⟩ | ⟨target, r, s₁, hanswers, hdeliver⟩
      · have hresolve := (compile_fails_iff he hjob).1 hcompile
        exact .unresolved ((Sources.resolve_fails_iff hf).1 ⟨t, hresolve⟩)
      · exact escape_of_deliver he hjob hf hanswers hdeliver
    · intro h
      refine (run_fails_iff h.ne_refused).2 ?_
      refine (h.resolve_or_deliver he hjob).imp_left fun hfails => ?_
      obtain ⟨t, hresolve⟩ := (Sources.resolve_fails_iff h.ne_refused).2 hfails
      exact ⟨t, (compile_fails_iff he hjob).2 hresolve⟩
  refine ⟨hescapes, ?_⟩
  rcases hrun : (run host registry job).runFrom s with ⟨f | o, s'⟩
  · have hf := (hescapes f).1 ⟨s', hrun⟩
    exact ⟨fun ⟨o, s'', h⟩ => by simp at h, fun h => absurd hf (h f)⟩
  · refine ⟨fun _ f hf => ?_, fun _ => ⟨o, s', rfl⟩⟩
    obtain ⟨s'', h⟩ := (hescapes f).2 hf
    simp [hrun] at h

/-- A build of one source, which returns an outcome. -/
theorem plain_source_never_escapes :
    let host : Host := { cwd := ["w"], homes := ⟨"/", []⟩ }
    let job : Job := { paths := ["Token.cs"], engine := .given ({} : Canned).engine }
    let s : Run := { disk := (Disk.empty.put ["w"] .folder).put ["w", "Token.cs"] (.file []) }
    ({} : Canned).engine.Behaves ∧ ∀ f, ¬ Escape host {} job s f := by
  intro host job s
  have hreturns : ((run host {} job).runFrom s).1.toOption.isSome = true := by decide +kernel
  refine ⟨Canned.behaves_engine, (run_escapes_iff Canned.behaves_engine rfl).2.1 ?_⟩
  rcases hrun : (run host {} job).runFrom s with ⟨f | o, s'⟩
  · simp [hrun, Except.toOption] at hreturns
  · exact ⟨o, s', rfl⟩

/-! ## A name that is too long -/

/-- The text of a path to something directly in the root. -/
theorem toText_joinText_root {name : String} (hname : Path.IsPart name) :
    ((Path.ofComponents .root []).joinText name).toText = "/" ++ name := by
  obtain ⟨hparts, hanchor⟩ := Path.parts_joinText hname (.ofComponents .root [])
  rw [Path.toText, hparts, hanchor]
  exact congrArg ("/" ++ ·) String.intercalate_singleton

/-- Something whose name is too long cannot be tested. -/
theorem fails_of_long_name {name : String} {d : Disk} {base : Path}
    (hname : Disk.IsName name) (hlong : Disk.maxName < name.utf8ByteSize)
    (hbase : host.base d none = .ok base) :
    Sources.Fails host d ["/" ++ name] none (.system .nameTooLong) := by
  have hroot : (Path.ofComponents .root []).Direct := ⟨rfl, by decide⟩
  have hopens : d.Opens host.cwd (.ofComponents .root []) [] := ⟨rfl, rfl⟩
  have hfits : ¬ ((Path.ofComponents .root []).joinText name).Fits := by
    rintro ⟨-, hfit⟩
    rw [Path.name_joinText hname.1] at hfit
    omega
  have hdirect := hroot.joinText hname
  have habsolute : ["/" ++ name].mapM (fun s => host.absolute (.ofText s) base)
      = .ok [(Path.ofComponents .root []).joinText name] := by
    rw [List.mapM_cons, List.mapM_nil, ← toText_joinText_root hname.1,
      Path.ofText_toText hdirect.absolute, Host.absolute_of_direct hdirect]
    rfl
  refine .longPath hbase habsolute (.inl rfl) ?_
  rw [Disk.TooLong, Disk.status, Disk.locate_joinText_of_not_fits hopens hname hfits]
  rfl

/-- The name of a source that cannot exist. -/
def longSource : String := repeated 'x' 300 ++ ".cs"

theorem isName_longSource : Disk.IsName longSource ∧ Disk.maxName < longSource.utf8ByteSize := by
  have hletters : '/' ∉ ".cs".toList ∧ '\x00' ∉ ".cs".toList := by decide
  have hsize : 'x'.utf8Size = 1 ∧ ".cs".utf8ByteSize = 3 := by decide
  have hmem : ∀ c, 'x' ≠ c → c ∉ ".cs".toList → c ∉ longSource.toList := by
    intro c hx hc
    rw [longSource, String.toList_append, List.mem_append, not_or]
    exact ⟨notMem_repeated hx 300, hc⟩
  have hslash := hmem _ (by decide) hletters.1
  have hnul := hmem _ (by decide) hletters.2
  refine ⟨Disk.isName_of_length ?_ hslash hnul, ?_⟩
  · rw [longSource, String.toList_append, List.length_append, toList_repeated,
      List.length_replicate]
    omega
  · rw [longSource, String.utf8ByteSize_append, utf8ByteSize_repeated, hsize.1, hsize.2]
    decide

/-- A build of a source that cannot exist, because its name is too long: nobody says so. -/
theorem long_name_escapes :
    let host : Host := { cwd := [], homes := ⟨"/", []⟩ }
    let job : Job := { paths := ["/" ++ longSource], engine := .given ({} : Canned).engine }
    ({} : Canned).engine.Behaves
      ∧ ∃ s', (run host {} job).runFrom { disk := .empty }
        = (.error (.system .nameTooLong), s') := by
  intro host job
  have hbase : host.base .empty none = .ok (.ofComponents .root []) := rfl
  have hfails := fails_of_long_name isName_longSource.1 isName_longSource.2 hbase
  obtain ⟨t, hresolve⟩ := (Sources.resolve_fails_iff (t := {}) hfails.ne_refused).2 hfails
  have hcompile : (compile host {} .empty job).runFrom {} = (.error (.system .nameTooLong), t) :=
    (compile_fails_iff Canned.behaves_engine rfl).2 hresolve
  exact ⟨Canned.behaves_engine, (run_fails_iff hfails.ne_refused).2 (.inl ⟨t, hcompile⟩)⟩

end Build

end ContractBuild
