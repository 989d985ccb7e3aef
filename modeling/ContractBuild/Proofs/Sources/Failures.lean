import ContractBuild.Proofs.Disk.Failures
import ContractBuild.Proofs.Sources.Stable

/-!
# Why resolving fails

Resolving ends in a target or a refusal, except in the ways of `Fails`: a leading `~` names no
home directory, the working directory is gone, a directory cannot be listed, or a path is too long
to be tested (`resolve_fails_iff`). These failures are the ones that nobody turns into a refusal.

The ways follow the order of the tests. A list of paths is made absolute as a whole, so the first
path with an unknown home decides; then the paths are tested one by one, and only a test that is
reached can fail (`Tested`). None of these failures asks for an exit code of its own
(`Fails.exitCode`).
-/

namespace ContractBuild

/-- A filter whose tests all fail in the same way, if they fail. -/
theorem filterM_eq_error_iff {α : Type} {keep : α → Except Failure Bool} {as : List α}
    {f g : Failure} (hkeep : ∀ a e, keep a = .error e → e = g) :
    as.filterM keep = .error f ↔ f = g ∧ ∃ a ∈ as, keep a = .error g := by
  have hcases : ∀ a, (∃ b, keep a = .ok b) ∨ keep a = .error g := by
    intro a
    cases ha : keep a with
    | ok b => exact .inl ⟨b, rfl⟩
    | error e => exact .inr (by rw [hkeep a e ha])
  by_cases hfails : ∃ a ∈ as, keep a = .error g
  · rw [filterM_eq_error (fun a _ => hcases a) hfails]
    simp [hfails, eq_comm]
  · have hok : ∀ a ∈ as, keep a = .ok ((keep a).toOption.getD false) := by
      intro a ha
      obtain ⟨b, hb⟩ := (hcases a).resolve_right fun h => hfails ⟨a, ha, h⟩
      rw [hb]
      rfl
    rw [filterM_eq_ok hok]
    simp [hfails]

namespace Sources

variable {host : Host} {disk : Disk} {p base directory : Path} {ps : List Path} {f : Failure}
variable {paths : List String} {cwd : Option String}

/-! ## Tests -/

/-- A test of either kind fails for the length of a path only. -/
theorem leadsTo_eq_error_iff {kind : Node → Bool} :
    (disk.leadsTo kind host.cwd p).mapError Failure.system = .error f ↔
      f = .system .nameTooLong ∧ disk.TooLong host.cwd p := by
  have htest : ∀ n, disk.leadsTo kind host.cwd p = .error n ↔
      n = .nameTooLong ∧ disk.TooLong host.cwd p := fun _ => Disk.leadsTo_eq_error_iff kind
  cases hx : disk.leadsTo kind host.cwd p with
  | ok b =>
    have hnot : ¬ disk.TooLong host.cwd p := fun hlong => by
      simpa [hx] using (htest _).2 ⟨rfl, hlong⟩
    simp [hnot]
  | error n =>
    obtain ⟨rfl, hlong⟩ := (htest n).1 hx
    simp [hlong, eq_comm]

theorem isFile_eq_error_iff :
    isFile host disk p = .error f ↔ f = .system .nameTooLong ∧ disk.TooLong host.cwd p :=
  leadsTo_eq_error_iff

theorem isFolder_eq_error_iff :
    isFolder host disk p = .error f ↔ f = .system .nameTooLong ∧ disk.TooLong host.cwd p :=
  leadsTo_eq_error_iff

/-- A path that is tested: it is the only one, or it is named like a source and so are all before
it, which exist. -/
def Tested (host : Host) (disk : Disk) (ps : List Path) (p : Path) : Prop :=
  ps = [p] ∨ ∃ before after, ps = before ++ p :: after ∧ p.hasSuffix sourceSuffix = true
    ∧ ∀ q ∈ before, q.hasSuffix sourceSuffix = true ∧ isFile host disk q = .ok true

/-- Sources are tested one after another. -/
theorem checkFiles_fails_iff (hf : ∀ x, f ≠ .refused x) :
    checkFiles host disk ps = .error f ↔ f = .system .nameTooLong ∧
      ∃ before p after, ps = before ++ p :: after ∧ p.hasSuffix sourceSuffix = true
        ∧ (∀ q ∈ before, q.hasSuffix sourceSuffix = true ∧ isFile host disk q = .ok true)
        ∧ disk.TooLong host.cwd p := by
  induction ps with
  | nil => simp [checkFiles]
  | cons p ps ih =>
    rw [checkFiles_cons]
    constructor
    · intro h
      split at h
      next hsource =>
        split at h
        next hfile =>
          obtain rfl := Except.error.inj h
          obtain ⟨rfl, hlong⟩ := isFile_eq_error_iff.1 hfile
          exact ⟨rfl, [], p, ps, rfl, hsource, by simp, hlong⟩
        next hfile =>
          obtain ⟨rfl, before, q, after, rfl, hq, hbefore, hlong⟩ := ih.1 h
          exact ⟨rfl, p :: before, q, after, rfl, hq,
            List.forall_mem_cons.2 ⟨⟨hsource, hfile⟩, hbefore⟩, hlong⟩
        next => exact absurd (Except.error.inj h).symm (hf _)
      next => exact absurd (Except.error.inj h).symm (hf _)
    · rintro ⟨rfl, before, q, after, hsplit, hq, hbefore, hlong⟩
      cases before with
      | nil =>
        obtain ⟨rfl, -⟩ := List.cons.inj hsplit
        rw [if_pos hq, isFile_eq_error_iff.2 ⟨rfl, hlong⟩]
      | cons p' before =>
        obtain ⟨rfl, hlater⟩ := List.cons.inj hsplit
        obtain ⟨⟨hsource, hfile⟩, hbefore⟩ := List.forall_mem_cons.1 hbefore
        rw [if_pos hsource, hfile]
        exact ih.2 ⟨rfl, before, q, after, hlater, hq, hbefore, hlong⟩

/-- One path is tested whatever it is named. -/
theorem single?_eq_error_iff :
    single? host disk p = .error f ↔ f = .system .nameTooLong ∧ disk.TooLong host.cwd p := by
  have hfolder : isFolder host disk p = .error f ↔ _ := isFolder_eq_error_iff
  have hfile : isFile host disk p = .error f ↔ _ := isFile_eq_error_iff
  rw [single?_eq, ← hfolder]
  split
  next hfails => simp [hfails]
  next hyes => simp [hyes]
  next hno =>
    rw [hfolder, ← hfile]
    cases isFile host disk p <;> simp

theorem fileList_eq_error_iff {rest : List Path} :
    fileList host disk p rest = .error f ↔ checkFiles host disk (p :: rest) = .error f := by
  unfold fileList
  cases checkFiles host disk (p :: rest) <;> simp [bind, Except.bind, pure, Except.pure]

theorem classifyAbsolute_fails_iff (hf : ∀ x, f ≠ .refused x) :
    classifyAbsolute host disk base ps = .error f ↔ f = .system .nameTooLong
      ∧ ∃ p, Tested host disk ps p ∧ disk.TooLong host.cwd p := by
  have hseveral : ∀ p ps, (∀ q, p :: ps ≠ [q]) →
      (fileList host disk p ps = .error f ↔ f = .system .nameTooLong
        ∧ ∃ q, Tested host disk (p :: ps) q ∧ disk.TooLong host.cwd q) := by
    intro p ps hsingle
    rw [fileList_eq_error_iff, checkFiles_fails_iff hf]
    constructor
    · rintro ⟨rfl, before, q, after, hsplit, hq, hbefore, hlong⟩
      exact ⟨rfl, q, .inr ⟨before, after, hsplit, hq, hbefore⟩, hlong⟩
    · rintro ⟨rfl, q, htested, hlong⟩
      rcases htested with honly | ⟨before, after, hsplit, hq, hbefore⟩
      · exact absurd honly (hsingle q)
      · exact ⟨rfl, before, q, after, hsplit, hq, hbefore, hlong⟩
  unfold classifyAbsolute
  split
  next => simp [Tested]
  next p =>
    have htested : (∃ q, Tested host disk [p] q ∧ disk.TooLong host.cwd q)
        ↔ disk.TooLong host.cwd p := by
      constructor
      · rintro ⟨q, htested, hlong⟩
        have hmem : q ∈ [p] := by
          rcases htested with honly | ⟨before, after, hsplit, -, -⟩
          · simp [honly]
          · simp [hsplit]
        exact List.mem_singleton.1 hmem ▸ hlong
      · exact fun hlong => ⟨p, .inl rfl, hlong⟩
    rw [htested, bind_eq_error_iff, single?_eq_error_iff]
    refine ⟨fun h => ?_, .inl⟩
    rcases h with h | ⟨found, hsingle, h⟩
    · exact h
    · -- what was tested once can be tested again
      cases found with
      | some r => simp [pure, Except.pure] at h
      | none =>
        obtain ⟨rfl, before, q, after, hsplit, -, -, hlong⟩ :=
          (checkFiles_fails_iff hf).1 (fileList_eq_error_iff.1 h)
        have hmem : q ∈ [p] := by simp [hsplit]
        exact ⟨rfl, List.mem_singleton.1 hmem ▸ hlong⟩
  next p ps hsingle =>
    exact hseveral p ps fun q hq => hsingle (List.cons.inj hq).2

/-! ## The directory to be scanned -/

theorem projectsIn_eq_error_iff :
    projectsIn host disk directory = .error f ↔
      (∃ fault, disk.list host.cwd directory = .error fault ∧ f = fault.toFailure)
        ∨ f = .system .nameTooLong ∧ ∃ names, disk.list host.cwd directory = .ok names
          ∧ ∃ name ∈ names, disk.TooLong host.cwd (directory.joinText name) := by
  have hkeep : ∀ p e, isFile host disk p = .error e → e = .system .nameTooLong :=
    fun _ _ h => (isFile_eq_error_iff.1 h).1
  unfold projectsIn
  rw [bind_eq_error_iff]
  constructor
  · rintro (h | ⟨names, hlist, h⟩)
    · cases hlist : disk.list host.cwd directory with
      | ok names => simp [hlist] at h
      | error fault => exact .inl ⟨fault, rfl, by simpa [hlist, eq_comm] using h⟩
    · rcases bind_eq_error_iff.1 h with h | ⟨_, -, h⟩
      · obtain ⟨rfl, p, hp, htest⟩ := (filterM_eq_error_iff hkeep).1 h
        obtain ⟨name, hname, rfl⟩ := List.mem_map.1 hp
        exact .inr ⟨rfl, names, mapError_eq_ok_iff.1 hlist, name, hname,
          (isFile_eq_error_iff.1 htest).2⟩
      · simp [pure, Except.pure] at h
  · rintro (⟨fault, hlist, rfl⟩ | ⟨rfl, names, hlist, name, hname, hlong⟩)
    · exact .inl (by rw [hlist, mapError_error])
    · have htest := isFile_eq_error_iff.2 ⟨rfl, hlong⟩
      have hfilter := (filterM_eq_error_iff hkeep).2
        ⟨rfl, _, List.mem_map_of_mem (f := directory.joinText) hname, htest⟩
      exact .inr ⟨names, mapError_eq_ok_iff.2 hlist, bind_eq_error_iff.2 (.inl hfilter)⟩

/-- A scan fails if its search for descriptors does. -/
theorem scan_fails_iff (t : Trail) (hf : ∀ x, f ≠ .refused x) :
    (∃ t', (scan host disk directory).runFrom t = (.error f, t')) ↔
      projectsIn host disk directory = .error f := by
  constructor
  · rintro ⟨t', h⟩
    rcases Attempt.runFrom_bind_eq_error_iff.1 h with hprojects | ⟨ps, t₁, hprojects, h⟩
    · exact congrArg Prod.fst hprojects
    · -- nothing after the search fails
      cases ps with
      | nil =>
        simp only at h
        split at h
        next =>
          rw [Attempt.runFrom_refuse] at h
          exact absurd (Except.error.inj (congrArg Prod.fst h)).symm (hf _)
        next => simp at h
      | cons p ps =>
        simp only at h
        split at h
        next => rcases Attempt.runFrom_bind_eq_error_iff.1 h with h | ⟨_, _, -, h⟩ <;> simp at h
        next => simp at h
  · exact fun h => ⟨t, runFrom_scan_of_error h t⟩

/-- The ways in which resolving ends neither in a target nor in a refusal. -/
inductive Fails (host : Host) (disk : Disk) (paths : List String) (cwd : Option String) :
    Failure → Prop
  /-- There is no directory against which relative paths could be taken. -/
  | noBase {f : Failure} (hbase : host.base disk cwd = .error f) : Fails host disk paths cwd f
  /-- A path has no absolute form, while all before it have one. -/
  | noPath {base : Path} {before after : List String} {text : String} {f : Failure}
    (hbase : host.base disk cwd = .ok base) (hpaths : paths = before ++ text :: after)
    (hbefore : ∀ s ∈ before, ∃ p, host.absolute (.ofText s) base = .ok p)
    (htext : host.absolute (.ofText text) base = .error f) : Fails host disk paths cwd f
  /-- A path that is tested is too long. -/
  | longPath {base p : Path} {ps : List Path} (hbase : host.base disk cwd = .ok base)
    (hps : paths.mapM (fun s => host.absolute (.ofText s) base) = .ok ps)
    (htested : Tested host disk ps p) (hlong : disk.TooLong host.cwd p) :
    Fails host disk paths cwd (.system .nameTooLong)
  /-- The directory to be scanned cannot be listed. -/
  | unlisted {directory : Path} {fault : Disk.Fault}
    (hclassify : classify host disk paths cwd = .ok (.directory directory))
    (hlist : disk.list host.cwd directory = .error fault) :
    Fails host disk paths cwd fault.toFailure
  /-- The path of something in the directory to be scanned is too long. -/
  | longEntry {directory : Path} {names : List String} {name : String}
    (hclassify : classify host disk paths cwd = .ok (.directory directory))
    (hlist : disk.list host.cwd directory = .ok names) (hname : name ∈ names)
    (hlong : disk.TooLong host.cwd (directory.joinText name)) :
    Fails host disk paths cwd (.system .nameTooLong)

/-- None of these failures is a refusal. -/
theorem Fails.ne_refused (h : Fails host disk paths cwd f) (x : Refusal) : f ≠ .refused x := by
  cases h with
  | noBase hbase => exact (hbase ▸ ends_base cwd).ne_refused x
  | noPath _ _ _ htext => exact (htext ▸ ends_absolute _ _).ne_refused x
  | @unlisted _ fault => cases fault <;> simp [Disk.Fault.toFailure]
  | _ => simp

/-- None of these failures is a request for an exit code of its own. -/
theorem Fails.exitCode (h : Fails host disk paths cwd f) : f.exitCode = 1 := by
  cases h with
  | noBase hbase =>
    unfold Host.base at hbase
    split at hbase
    next hdirectory =>
      obtain rfl := Except.error.inj hbase
      unfold Host.directory at hdirectory
      split at hdirectory
      next => simp at hdirectory
      next => exact Except.error.inj hdirectory ▸ rfl
    next => simp at hbase
    next => exact Host.exitCode_of_absolute hbase
  | noPath _ _ _ htext => exact Host.exitCode_of_absolute htext
  | @unlisted _ fault => cases fault <;> rfl
  | _ => rfl

/-- What paths ask for cannot be told. -/
theorem classify_fails_iff (hf : ∀ x, f ≠ .refused x) :
    classify host disk paths cwd = .error f ↔
      host.base disk cwd = .error f ∨ ∃ base, host.base disk cwd = .ok base
        ∧ (paths.mapM (fun s => host.absolute (.ofText s) base) = .error f
          ∨ f = .system .nameTooLong ∧ ∃ ps,
            paths.mapM (fun s => host.absolute (.ofText s) base) = .ok ps
              ∧ ∃ p, Tested host disk ps p ∧ disk.TooLong host.cwd p) := by
  unfold classify
  simp only [bind_eq_error_iff, classifyAbsolute_fails_iff hf]
  refine or_congr_right (exists_congr fun base => and_congr_right fun _ => or_congr_right ?_)
  exact ⟨fun ⟨ps, hps, hlong, h⟩ => ⟨hlong, ps, hps, h⟩,
    fun ⟨hlong, ps, hps, h⟩ => ⟨ps, hps, hlong, h⟩⟩

/-- Resolving fails if it cannot be told what the paths ask for, or a directory cannot be
searched. -/
theorem resolve_eq_error_iff {t : Trail} (hf : ∀ x, f ≠ .refused x) :
    (∃ t', (resolve host disk paths cwd).runFrom t = (.error f, t')) ↔
      classify host disk paths cwd = .error f
        ∨ ∃ directory, classify host disk paths cwd = .ok (.directory directory)
          ∧ projectsIn host disk directory = .error f := by
  rw [runFrom_resolve]
  rcases hclassify : classify host disk paths cwd with e | directory | target
  · simp
  · have hscan : (∃ t', (scan host disk directory).runFrom t = (.error f, t')) ↔ _ :=
      scan_fails_iff t hf
    rcases hrun : (scan host disk directory).runFrom t with ⟨e | target, t₁⟩
    · simpa [hrun] using hscan
    · simpa [hrun] using hscan
  · simp

/-- Resolving fails in these ways and in no other. -/
theorem resolve_fails_iff {t : Trail} (hf : ∀ x, f ≠ .refused x) :
    (∃ t', (resolve host disk paths cwd).runFrom t = (.error f, t')) ↔
      Fails host disk paths cwd f := by
  rw [resolve_eq_error_iff hf, classify_fails_iff hf]
  constructor
  · rintro ((hbase | ⟨base, hbase, habsolute | ⟨rfl, ps, hps, p, htested, hlong⟩⟩)
      | ⟨directory, hclassify, hprojects⟩)
    · exact .noBase hbase
    · obtain ⟨before, text, after, hpaths, hbefore, htext⟩ := mapM_eq_error_iff.1 habsolute
      exact .noPath hbase hpaths hbefore htext
    · exact .longPath hbase hps htested hlong
    · rcases projectsIn_eq_error_iff.1 hprojects with
        ⟨fault, hlist, rfl⟩ | ⟨rfl, names, hlist, name, hname, hlong⟩
      · exact .unlisted hclassify hlist
      · exact .longEntry hclassify hlist hname hlong
  · intro h
    cases h with
    | noBase hbase => exact .inl (.inl hbase)
    | noPath hbase hpaths hbefore htext =>
      exact .inl (.inr ⟨_, hbase, .inl (mapM_eq_error_iff.2 ⟨_, _, _, hpaths, hbefore, htext⟩)⟩)
    | longPath hbase hps htested hlong =>
      exact .inl (.inr ⟨_, hbase, .inr ⟨rfl, _, hps, _, htested, hlong⟩⟩)
    | unlisted hclassify hlist =>
      exact .inr ⟨_, hclassify, projectsIn_eq_error_iff.2 (.inl ⟨_, hlist, rfl⟩)⟩
    | longEntry hclassify hlist hname hlong =>
      exact .inr ⟨_, hclassify, projectsIn_eq_error_iff.2 (.inr ⟨rfl, _, hlist, _, hname, hlong⟩)⟩

end Sources

end ContractBuild
