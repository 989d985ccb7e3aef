import ContractBuild.Proofs.Build.Delivery
import ContractBuild.Proofs.Build.Endings

/-!
# What the user is told

The lines of a build are those of its diagnostics, one for each written file, and a last one if
the build succeeded, in this order and on whatever disk. Up to the answer of the engine nothing is
told. A writing tells of a file as soon as it is stored, so one that stops has told of the first
artifacts of the plan (`lines_of_writeAll`), and nothing tells of a refusal. `channel_trace` puts
the stages together: it gives all lines of every build, however it ends.

The line of a file and the last line are defined here a second time, in the words of the program
and not by the functions that write them (`fileLine`, `successLine`), so that the statement can be
read without them.
-/

namespace ContractBuild

/-- The line that tells of a written file. -/
def fileLine (p : Path) : Line := ⟨.out, "Created " ++ p.toText⟩

/-- The line that tells of a success. -/
def successLine : Line := ⟨.out, "Compilation completed successfully."⟩

/-- The last line of a writing, which has one if it has a result. -/
def lastLine : Except Failure Layout → List Line
  | .ok _ => [successLine]
  | .error _ => []

namespace Report

/-- Errors go to the error channel and everything else to the output channel, each as it is. -/
theorem lines_eq (ds : List Diagnostic) :
    lines ds = ds.map fun d => ⟨if d.severity = .error then .err else .out, d.text⟩ := by
  simp only [lines, channel, Diagnostic.isError, decide_eq_true_eq]

end Report

namespace Artifact

variable {host : Host} {r : Compiled} {l : Layout} {as : List Artifact} {s s' : Run}

/-- One step of a writing tells of its file if it stored it, and of nothing otherwise. -/
theorem lines_of_writeOne {a : Artifact} {x : Except Failure Path}
    (h : (writeOne host r l a).runFrom s = (x, s')) :
    (x = .ok (l.path a) ∧ s'.lines = s.lines ++ [fileLine (l.path a)])
      ∨ (∃ f, x = .error f) ∧ s'.lines = s.lines := by
  rw [runFrom_writeOne] at h
  split at h
  next f _ =>
    obtain ⟨rfl, rfl⟩ := Prod.mk.inj h
    exact .inr ⟨⟨f, rfl⟩, rfl⟩
  next =>
    split at h
    next f _ =>
      obtain ⟨rfl, rfl⟩ := Prod.mk.inj h
      exact .inr ⟨⟨f, rfl⟩, rfl⟩
    next =>
      split at h
      next =>
        obtain ⟨rfl, rfl⟩ := Prod.mk.inj h
        exact .inl ⟨rfl, rfl⟩
      next =>
        obtain ⟨rfl, rfl⟩ := Prod.mk.inj h
        exact .inr ⟨⟨_, rfl⟩, rfl⟩
      next f _ _ _ =>
        obtain ⟨rfl, rfl⟩ := Prod.mk.inj h
        exact .inr ⟨⟨f, rfl⟩, rfl⟩

/-- A writing tells of the first files in order, of all of them if it has a result. -/
theorem lines_of_writeAll {x : Except Failure (List Path)}
    (h : (writeAll host r l as).runFrom s = (x, s')) :
    ∃ files, files <+: as.map l.path ∧ s'.lines = s.lines ++ files.map fileLine
      ∧ ∀ ps, x = .ok ps → ps = files ∧ ps = as.map l.path := by
  induction as generalizing s s' x with
  | nil =>
    obtain ⟨rfl, rfl⟩ := Prod.mk.inj h
    refine ⟨[], List.prefix_refl _, by simp, fun ps hps => ?_⟩
    obtain rfl := Except.ok.inj hps
    exact ⟨rfl, rfl⟩
  | cons a as ih =>
    simp only [writeAll, Running.runFrom_bind] at h
    rcases hone : (writeOne host r l a).runFrom s with ⟨f | p, s₁⟩
    · rw [hone] at h
      obtain ⟨rfl, rfl⟩ := Prod.mk.inj h
      obtain ⟨hp, -⟩ | ⟨-, hlines⟩ := lines_of_writeOne hone
      · simp at hp
      · exact ⟨[], List.nil_prefix, by simpa using hlines, by simp⟩
    · rw [hone] at h
      obtain ⟨hp, hlines⟩ | ⟨⟨f, hf⟩, -⟩ := lines_of_writeOne hone
      · obtain rfl := Except.ok.inj hp
        -- The file is told before the rest is tried, so it is told whatever becomes of the rest.
        rcases hrest : (writeAll host r l as).runFrom s₁ with ⟨f | ps, s₂⟩
        all_goals
          obtain ⟨files, hprefix, hmore, hall⟩ := ih hrest
          simp only [hrest] at h
          obtain ⟨rfl, rfl⟩ := Prod.mk.inj h
          refine ⟨l.path a :: files, ?_, by simp [hmore, hlines], ?_⟩
          · simpa using hprefix
        · simp
        · intro qs hqs
          obtain rfl := Except.ok.inj hqs
          obtain ⟨rfl, hps⟩ := hall ps rfl
          simp [← hps]
      · simp at hf

/-- Creating the folder tells nothing. -/
theorem lines_of_prepareFolder {folder : Path} {x : Except Failure Unit}
    (h : (prepareFolder host folder).runFrom s = (x, s')) : s'.lines = s.lines := by
  rw [runFrom_prepareFolder] at h
  split at h
  all_goals
    obtain ⟨-, rfl⟩ := Prod.mk.inj h
    rfl

/-- The lines of a whole writing: of the first files of the plan, and a last one if all of them were
written. Where the name makes no layout there are none. -/
theorem lines_of_write {options : Options} {fallback : Path} {name : Value}
    {x : Except Failure Layout}
    (h : (write host r options fallback name).runFrom s = (x, s')) :
    ∃ files, s'.lines = s.lines ++ files.map fileLine ++ lastLine x
      ∧ (files ≠ [] → ∃ chosen l, fileName? name r options = some chosen
        ∧ Layout.ofName (options.outputFolder fallback) chosen = .valid l
        ∧ files <+: (plan options).map l.path)
      ∧ ∀ l, x = .ok l → l.files = files ∧ files = (plan options).map l.path := by
  cases write_iff.1 h with
  | unsuccessful => exact ⟨[], by simp [lastLine], by simp, by simp⟩
  | nameless => exact ⟨[], by simp [lastLine], by simp, by simp⟩
  | noFolder _ _ hfolder =>
    exact ⟨[], by simp [lastLine, lines_of_prepareFolder hfolder], by simp, by simp⟩
  | misnamed _ _ hfolder =>
    exact ⟨[], by simp [lastLine, lines_of_prepareFolder hfolder], by simp, by simp⟩
  | @stopped chosen l _ _ _ _ hname hfolder hl hall =>
    obtain ⟨files, hprefix, hlines, -⟩ := lines_of_writeAll hall
    rw [lines_of_prepareFolder hfolder] at hlines
    exact ⟨files, by simpa [lastLine] using hlines, fun _ => ⟨chosen, l, hname, hl, hprefix⟩,
      by simp⟩
  | @completed chosen l ps _ s₂ _ hname hfolder hl hall =>
    obtain ⟨files, hprefix, hlines, hps⟩ := lines_of_writeAll hall
    obtain ⟨rfl, hplan⟩ := hps ps rfl
    rw [lines_of_prepareFolder hfolder] at hlines
    refine ⟨ps, ?_, fun _ => ⟨chosen, l, hname, hl, hprefix⟩, fun l' hl' => ?_⟩
    · simp [completed, completedLine, lastLine, successLine, hlines]
    · obtain rfl := Except.ok.inj hl'
      exact ⟨rfl, hplan⟩

end Artifact

namespace Build

variable {host : Host} {registry : Engine.Registry} {job : Job} {s s' : Run}

/-- The layout under which a build writes its artifacts. -/
def WritesAs (host : Host) (job : Job) (disk : Disk) (target : Target) (r : Compiled) (l : Layout) :
    Prop :=
  ∃ options chosen, anchorOutput host disk job.options job.cwd = .ok options
    ∧ Artifact.fileName? (writtenName job target r) r options = some chosen
    ∧ Layout.ofName (options.outputFolder target.folder) chosen = .valid l

/-- What a delivery tells: of the first files of the plan, if the compilation succeeded, and at last
of the success. -/
structure TellsFiles (host : Host) (job : Job) (disk : Disk) (target : Target) (r : Compiled)
    (x : Except Failure Layout) (files : List Path) : Prop where
  planned : files ≠ [] → ∃ l, WritesAs host job disk target r l
    ∧ files <+: (Artifact.plan job.options).map l.path
  /-- Of a failed compilation nothing is told. -/
  failed : r.success = false → files = [] ∧ ∃ f, x = .error f
  delivered : ∀ l, x = .ok l →
    l.files = files ∧ files = (Artifact.plan job.options).map l.path

theorem lines_of_deliver {target : Target} {r : Compiled} {x : Except Failure Layout}
    (h : (deliver host job target r).runFrom s = (x, s')) :
    ∃ files, s'.lines = s.lines ++ files.map fileLine ++ lastLine x
      ∧ TellsFiles host job s.disk target r x files := by
  rw [runFrom_deliver] at h
  split at h
  next =>
    obtain ⟨rfl, rfl⟩ := Prod.mk.inj h
    exact ⟨[], by simp [lastLine], by simp, by simp, by simp⟩
  next hsuccess =>
    split at h
    next hanchor =>
      obtain ⟨rfl, rfl⟩ := Prod.mk.inj h
      exact ⟨[], by simp [lastLine], by simp, by simp, by simp⟩
    next options hanchor =>
      obtain ⟨files, hlines, hplanned, hdelivered⟩ := Artifact.lines_of_write h
      obtain ⟨directory, rfl⟩ := exists_outputDirectory_of_anchorOutput hanchor
      refine ⟨files, hlines, fun hfiles => ?_, fun hfailed => ?_, hdelivered⟩
      · obtain ⟨chosen, l, hname, hl, hprefix⟩ := hplanned hfiles
        exact ⟨l, ⟨_, chosen, hanchor, hname, hl⟩, hprefix⟩
      · simp [hfailed] at hsuccess

theorem lines_of_conclude {y : Refusal} {ds : List Diagnostic} {x : Except Failure Outcome}
    (h : (conclude y ds).runFrom s = (x, s')) : s'.lines = s.lines := by
  rw [runFrom_conclude] at h
  split at h
  all_goals
    obtain ⟨-, rfl⟩ := Prod.mk.inj h
    rfl

/-- The last line of a build, which has one if its outcome is a success. -/
def closing : Except Failure Outcome → List Line
  | .ok o => if o.status = .succeeded then [successLine] else []
  | .error _ => []

/-- All that a build tells the user once the engine has answered `r`: of each diagnostic in the
order of the engine, of the first files of the plan, and of a success. -/
structure Transcript (host : Host) (job : Job) (s : Run) (target : Target) (r : Compiled)
    (x : Except Failure Outcome) (files : List Path) (s' : Run) : Prop where
  lines : s'.lines = s.lines
    ++ (r.diagnostics.map fun d => ⟨if d.severity = .error then .err else .out, d.text⟩)
    ++ files.map fileLine ++ closing x
  planned : files ≠ [] → ∃ l, WritesAs host job s.disk target r l
    ∧ files <+: (Artifact.plan job.options).map l.path
  /-- Of a failed compilation only the diagnostics are told. -/
  failed : r.success = false → files = [] ∧ closing x = []
  delivered : ∀ o, x = .ok o → o.status = .succeeded → ∃ l, o.layout = some l ∧ l.files = files
    ∧ files = (Artifact.plan job.options).map l.path

/-- A conclusion is no success, so it has no last line. -/
theorem closing_of_conclude {y : Refusal} {ds : List Diagnostic} {x : Except Failure Outcome}
    (h : (conclude y ds).runFrom s = (x, s')) : closing x = [] := by
  cases x with
  | error f => rfl
  | ok o =>
    obtain ⟨status, hstatus, rfl, -⟩ := conclude_eq_ok_iff.1 h
    have hne : status ≠ .succeeded := fun he => status?_ne_succeeded y (he ▸ hstatus)
    exact if_neg hne

/-- A build whose delivery failed has told of the diagnostics and of the files that were written. -/
theorem transcript_of_failed {target : Target} {r : Compiled} {t : Trail} {f : Failure} {s₁ : Run}
    {x : Except Failure Outcome}
    (hdeliver : (deliver host job target r).runFrom (reported s t r.diagnostics) = (.error f, s₁))
    (hlines : s'.lines = s₁.lines) (hclosing : closing x = []) :
    ∃ files, Transcript host job s target r x files s' := by
  obtain ⟨files, htold, htells⟩ := lines_of_deliver hdeliver
  refine ⟨files, ⟨?_, htells.planned, fun hfailed => ?_, fun o hx ho => ?_⟩⟩
  · rw [hlines, htold, hclosing, ← Report.lines_eq]
    rfl
  · exact ⟨(htells.failed hfailed).1, hclosing⟩
  · subst hx
    simp [closing, ho] at hclosing

theorem answers_of_compile {target : Target} {r : Compiled} {t : Trail}
    (h : (compile host registry s.disk job).runFrom s.trail = (.ok (target, r), t)) :
    Answers host registry job s target r (reported s t r.diagnostics) :=
  answers_iff.2 ⟨t, h, rfl⟩

/-- There is one answer at most, to what was compiled. -/
theorem eq_of_answers {target target' : Target} {r r' : Compiled} {t : Trail} {s₁ : Run}
    (h : (compile host registry s.disk job).runFrom s.trail = (.ok (target, r), t))
    (hanswers : Answers host registry job s target' r' s₁) : target' = target ∧ r' = r := by
  obtain ⟨t', h', -⟩ := answers_iff.1 hanswers
  have heq := h.symm.trans h'
  simp only [Prod.mk.injEq, Except.ok.injEq] at heq
  exact ⟨heq.1.1.symm, heq.1.2.symm⟩

/-- A transcript for the answer that the engine gave is one for whatever it answered. -/
theorem trace_of_answer {target : Target} {r : Compiled} {t : Trail} {x : Except Failure Outcome}
    (hcompile : (compile host registry s.disk job).runFrom s.trail = (.ok (target, r), t))
    (h : ∃ files, Transcript host job s target r x files s') :
    ((∀ target r s₁, ¬ Answers host registry job s target r s₁) → s'.lines = s.lines)
    ∧ ∀ target r s₁, Answers host registry job s target r s₁ →
      ∃ files, Transcript host job s target r x files s' := by
  refine ⟨fun hno => absurd (answers_of_compile hcompile) (hno _ _ _), fun target' r' s₁ ha => ?_⟩
  obtain ⟨rfl, rfl⟩ := eq_of_answers hcompile ha
  exact h

/-- Where the engine did not answer there is nothing to tell. -/
theorem trace_of_error {f : Failure} {t : Trail} {x : Except Failure Outcome}
    (hcompile : (compile host registry s.disk job).runFrom s.trail = (.error f, t))
    (hlines : s'.lines = s.lines) :
    ((∀ target r s₁, ¬ Answers host registry job s target r s₁) → s'.lines = s.lines)
    ∧ ∀ target r s₁, Answers host registry job s target r s₁ →
      ∃ files, Transcript host job s target r x files s' := by
  refine ⟨fun _ => hlines, fun target r s₁ ha => ?_⟩
  obtain ⟨t', h', -⟩ := answers_iff.1 ha
  simp [hcompile] at h'

/-- A build with a delivery has told of the diagnostics, of all files of the plan, and of the
success. -/
theorem transcript_of_delivered {target : Target} {r : Compiled} {t : Trail} {l : Layout}
    {s₁ : Run}
    (hdeliver : (deliver host job target r).runFrom (reported s t r.diagnostics) = (.ok l, s₁))
    (hlines : s'.lines = s₁.lines) :
    ∃ files, Transcript host job s target r (.ok (deliveredOutcome l r.diagnostics)) files s' := by
  obtain ⟨files, htold, htells⟩ := lines_of_deliver hdeliver
  obtain ⟨hfiles, hplan⟩ := htells.delivered l rfl
  refine ⟨files, ⟨?_, htells.planned, fun hfailed => ?_, fun o ho _ => ?_⟩⟩
  · rw [hlines, htold, ← Report.lines_eq]
    rfl
  · obtain ⟨-, f, hf⟩ := htells.failed hfailed
    simp at hf
  · obtain rfl := Except.ok.inj ho
    exact ⟨l, rfl, hfiles, hplan⟩

/-- The lines of a build, however it ends. There are none if the engine did not answer. If it did,
they are those of its diagnostics, then those of the files written, and at last the one of a
success. -/
theorem channel_trace {x : Except Failure Outcome}
    (h : (run host registry job).runFrom s = (x, s')) :
    ((∀ target r s₁, ¬ Answers host registry job s target r s₁) → s'.lines = s.lines)
    ∧ ∀ target r s₁, Answers host registry job s target r s₁ →
      ∃ files, Transcript host job s target r x files s' := by
  cases run_iff.1 h with
  | refused hcompile hend =>
    have hlines := lines_of_conclude hend
    exact trace_of_error hcompile hlines
  | broken hcompile => exact trace_of_error hcompile rfl
  | refusedLate hcompile hdeliver hend =>
    exact trace_of_answer hcompile
      (transcript_of_failed hdeliver (lines_of_conclude hend) (closing_of_conclude hend))
  | brokenLate hcompile hdeliver =>
    exact trace_of_answer hcompile (transcript_of_failed hdeliver rfl rfl)
  | delivered hcompile hdeliver =>
    exact trace_of_answer hcompile (transcript_of_delivered hdeliver rfl)

/-- A warning and an error of a successful compilation are told on their channels, then the written
executable. A directory stands where the manifest belongs, and nothing tells of its refusal. -/
theorem interrupted_build_told :
    let host : Host := { cwd := ["w"], homes := ⟨"/", []⟩ }
    let c : Canned :=
      { diagnostics := [{ severity := .error, message := "first" },
          { severity := .warning, message := "second" }] }
    let options : Options := { outputDirectory := some (.ofText "out") }
    let job : Job := { paths := ["Token.cs"], options, engine := .given c.engine }
    let source : Disk := (Disk.empty.put ["w"] .folder).put ["w", "Token.cs"] (.file [])
    let s : Run :=
      { disk := (source.put ["w", "out"] .folder).put ["w", "out", "Token.manifest.json"] .folder }
    ∃ x s', (run host {} job).runFrom s = (x, s')
      ∧ (∃ target r s₁, Answers host {} job s target r s₁
        ∧ ∃ files, Transcript host job s target r x files s')
      ∧ s'.lines = [⟨.err, "error: first"⟩, ⟨.out, "warning: second"⟩,
        ⟨.out, "Created /w/out/Token.nef"⟩] := by
  intro host c options job source s
  have hlines : ((run host {} job).runFrom s).2.lines
      = [⟨.err, "error: first"⟩, ⟨.out, "warning: second"⟩,
        ⟨.out, "Created /w/out/Token.nef"⟩] := by decide +kernel
  rcases hrun : (run host {} job).runFrom s with ⟨x, s'⟩
  simp only [hrun] at hlines
  obtain ⟨hsilent, htold⟩ := channel_trace hrun
  have hanswers : ∃ target r s₁, Answers host {} job s target r s₁ := by
    by_contra hno
    have hnone : s'.lines = [] := hsilent fun target r s₁ ha => hno ⟨target, r, s₁, ha⟩
    simp [hlines] at hnone
  obtain ⟨target, r, s₁, ha⟩ := hanswers
  exact ⟨x, s', rfl, ⟨target, r, s₁, ha, htold target r s₁ ha⟩, hlines⟩

end Build

end ContractBuild
