import ContractBuild.Proofs.Sources.Refusals
import ContractBuild.Proofs.Sources.Scanning

/-!
# Resolving again

A change of the disk that keeps the inputs (`InputsKept`) cannot be seen by resolving: whatever the
inputs resolved to before, they resolve to afterwards, and where nothing was found nothing is found
again (`resolve_again`).

The one exception is a matter of spelling. A directory may be named with two slashes at the start,
which makes every path in it one longer than the operating system needs. If something was added to
such a directory whose path is then just too long, the scan stumbles over it (`Crowded`).
-/

namespace ContractBuild

/-- The base directory is found as long as directories are kept. -/
theorem Host.base_again {host : Host} {d e : Disk} {cwd : Option String} {base : Path}
    (hkept : Disk.FoldersKept d e) (h : host.base d cwd = .ok base) :
    host.base e cwd = .ok base := by
  have hdirectory : ∀ {p}, host.directory d = .ok p → host.directory e = .ok p := by
    intro p hp
    unfold directory at hp ⊢
    split at hp
    next hfolder => rwa [if_pos (hkept _ hfolder)]
    next => simp at hp
  unfold Host.base at h ⊢
  cases hd : host.directory d with
  | error f => simp [hd] at h
  | ok p => rwa [hdirectory hd, ← hd]

namespace Sources

variable {host : Host} {d e : Disk} {directory p base : Path} {ps : List Path}

/-- Something was added to a directory spelled with two slashes, whose path in this spelling is just
too long. -/
def Crowded (d e : Disk) (directory : Path) : Prop :=
  directory.anchor = .doubleRoot ∧ ∃ name, d.get? (directory.parts ++ [name]) = none
    ∧ e.get? (directory.parts ++ [name]) ≠ none
    ∧ (Route.ofPath (directory.joinText name)).size = Disk.maxPath

/-- What resolving asks of inputs: a regular file among the inputs is one as before. -/
theorem InputsKept.file?_eq (h : InputsKept d e) {k : Location} (hk : k.IsInput) :
    e.file? k = d.file? k := by
  rcases h.inputs k hk with he | ⟨hnone, hfolder⟩
  · exact Disk.file?_eq_of_get?_eq he
  · rw [Disk.file?_eq_none_of_get?_eq_none hnone, Disk.file?, hfolder]

/-! ## Single paths -/

/-- An input that tests as a file still does. -/
theorem holds_again (h : InputsKept d e) (hd : d.LinkFree)
    (hinput : (p.location host.cwd).IsInput) (hfile : d.isFile host.cwd p = .ok true) :
    ∃ content, e.Holds host.cwd p content := by
  obtain ⟨content, hholds⟩ := (Disk.isFile_eq_true_iff hd).1 hfile
  obtain ⟨hopenable, a, hleads⟩ := hholds.leads hd
  have hheld : e.get? (p.location host.cwd) = some (.file content) := by
    rcases h.inputs _ hinput with he | ⟨hnone, -⟩
    · exact he.trans hholds.held
    · exact absurd (hnone.symm.trans hholds.held) (by simp)
  exact ⟨content, .of_leads (h.linkFree hd) hopenable (hleads.mono h.folders) hheld⟩

theorem isFile_again (h : InputsKept d e) (hd : d.LinkFree) (hp : p.Direct) {suffix : String}
    (hsuffix : suffix = sourceSuffix ∨ suffix = projectSuffix) (hinput : p.hasSuffix suffix = true)
    (hfile : isFile host d p = .ok true) :
    isFile host e p = .ok true ∧ isFolder host e p = .ok false := by
  have hlocation : (p.location host.cwd).IsInput := by
    rcases hsuffix with rfl | rfl
    · exact .inl ((hp.hasSuffix_location host.cwd _).trans hinput)
    · exact .inr ((hp.hasSuffix_location host.cwd _).trans hinput)
  obtain ⟨content, hholds⟩ := holds_again h hd hlocation (mapError_eq_ok_iff.1 hfile)
  have htest := (Disk.isFile_eq_true_iff (h.linkFree hd)).2 ⟨content, hholds⟩
  exact ⟨mapError_eq_ok_iff.2 htest, mapError_eq_ok_iff.2 hholds.isFolder⟩

theorem isFolder_again (h : InputsKept d e) (hd : d.LinkFree) (hp : p.Direct)
    (hfolder : isFolder host d p = .ok true) : isFolder host e p = .ok true := by
  have hleads := (Disk.isFolder_eq_true_iff hd).1 (mapError_eq_ok_iff.1 hfolder)
  exact mapError_eq_ok_iff.2
    ((Disk.isFolder_eq_true_iff (h.linkFree hd)).2 (hleads.mono hp h.folders))

/-- No suffix is both. -/
theorem not_project_of_source (h : p.hasSuffix sourceSuffix = true) :
    p.hasSuffix projectSuffix = false := by
  have hne : sourceSuffix.toList ≠ projectSuffix.toList := by decide
  simp only [Path.hasSuffix, decide_eq_true_eq] at h
  simp only [Path.hasSuffix, decide_eq_false_iff_not, h]
  exact hne

/-! ## Classification -/

/-- How a file is accepted. -/
theorem checkFiles_cons (host : Host) (d : Disk) (p : Path) (ps : List Path) :
    checkFiles host d (p :: ps) =
      if p.hasSuffix sourceSuffix then
        match isFile host d p with
        | .error f => .error f
        | .ok true => checkFiles host d ps
        | .ok false => .error (.refused (missingFile p))
      else .error (.refused (wrongSuffix p)) := by
  rw [checkFiles]
  cases p.hasSuffix sourceSuffix with
  | false => rfl
  | true =>
    rcases isFile host d p with f | _ | _ <;> rfl

/-- Files are accepted if all of them are sources that exist. -/
theorem checkFiles_eq_ok_iff :
    checkFiles host d ps = .ok () ↔
      ∀ p ∈ ps, p.hasSuffix sourceSuffix = true ∧ isFile host d p = .ok true := by
  induction ps with
  | nil => simp [checkFiles]
  | cons p ps ih =>
    rw [List.forall_mem_cons, ← ih, checkFiles_cons]
    cases p.hasSuffix sourceSuffix with
    | false => simp
    | true => rcases isFile host d p with f | _ | _ <;> simp

theorem fileList_again {rest : List Path} {request : Request} (h : InputsKept d e)
    (hd : d.LinkFree) (hp : p.Direct) (hrest : ∀ q ∈ rest, q.Direct)
    (hok : fileList host d p rest = .ok request) : fileList host e p rest = .ok request := by
  obtain ⟨_, hfiles, hrequest⟩ := bind_eq_ok_iff.1 hok
  refine bind_eq_ok_iff.2 ⟨(), checkFiles_eq_ok_iff.2 fun q hq => ?_, hrequest⟩
  obtain ⟨hsource, hfile⟩ := checkFiles_eq_ok_iff.1 hfiles q hq
  have hdirect : q.Direct := by
    rcases List.mem_cons.1 hq with rfl | hq
    · exact hp
    · exact hrest q hq
  exact ⟨hsource, (isFile_again h hd hdirect (.inl rfl) hsource hfile).1⟩

/-- What one path asks for: it is a directory, or a descriptor, or neither. -/
theorem single?_eq (host : Host) (d : Disk) (p : Path) :
    single? host d p =
      match isFolder host d p with
      | .error f => .error f
      | .ok true => .ok (some (.directory p))
      | .ok false =>
        match isFile host d p with
        | .error f => .error f
        | .ok file =>
          .ok (if file && p.hasSuffix projectSuffix then some (.target (.project p))
            else none) := by
  unfold single?
  rcases isFolder host d p with f | _ | _
  · rfl
  · rcases isFile host d p with f | _ | _
    · rfl
    · rfl
    · cases p.hasSuffix projectSuffix <;> rfl
  · rfl

/-- A directory or a descriptor is one as before. -/
theorem single?_again {request : Request} (h : InputsKept d e) (hd : d.LinkFree) (hp : p.Direct)
    (hok : single? host d p = .ok (some request)) : single? host e p = .ok (some request) := by
  rw [single?_eq] at hok ⊢
  split at hok
  next => simp at hok
  next hfolder => rwa [isFolder_again h hd hp hfolder]
  next hfolder =>
    split at hok
    next => simp at hok
    next file hfile =>
      obtain ⟨hdescriptor, -⟩ := Option.ite_none_right_eq_some.1 (Except.ok.inj hok)
      obtain ⟨rfl, hproject⟩ := Bool.and_eq_true_iff.1 hdescriptor
      obtain ⟨hfile', hfolder'⟩ := isFile_again h hd hp (.inr rfl) hproject hfile
      rwa [hfolder', hfile']

/-- A source that exists asks for nothing but itself. -/
theorem single?_of_source (h : InputsKept d e) (hd : d.LinkFree) (hp : p.Direct)
    (hok : checkFiles host d [p] = .ok ()) : single? host e p = .ok none := by
  obtain ⟨hsource, hfile⟩ := checkFiles_eq_ok_iff.1 hok p (List.mem_cons_self ..)
  obtain ⟨hfile', hfolder'⟩ := isFile_again h hd hp (.inl rfl) hsource hfile
  rw [single?_eq, hfolder', hfile', not_project_of_source hsource]
  rfl

theorem classifyAbsolute_again {request : Request} (h : InputsKept d e) (hd : d.LinkFree)
    (hps : ∀ p ∈ ps, p.Direct) (hok : classifyAbsolute host d base ps = .ok request) :
    classifyAbsolute host e base ps = .ok request := by
  unfold classifyAbsolute at hok ⊢
  split at hok
  next => exact hok
  next p =>
    have hp := hps p (List.mem_cons_self ..)
    obtain ⟨found, hsingle, hok⟩ := bind_eq_ok_iff.1 hok
    refine bind_eq_ok_iff.2 ?_
    cases found with
    | some r => exact ⟨some r, single?_again h hd hp hsingle, hok⟩
    | none =>
      obtain ⟨_, hfiles, -⟩ := bind_eq_ok_iff.1 hok
      exact ⟨none, single?_of_source h hd hp hfiles, fileList_again h hd hp (by simp) hok⟩
  next p ps _ =>
    exact fileList_again h hd (hps p (List.mem_cons_self ..))
      (fun q hq => hps q (List.mem_cons_of_mem p hq)) hok

/-- What paths ask for does not depend on anything but inputs. -/
theorem classify_again {paths : List String} {cwd : Option String} {request : Request}
    (h : InputsKept d e) (hd : d.LinkFree) (hok : classify host d paths cwd = .ok request) :
    classify host e paths cwd = .ok request := by
  obtain ⟨base, hbase, hok⟩ := bind_eq_ok_iff.1 hok
  obtain ⟨ps, hps, hok⟩ := bind_eq_ok_iff.1 hok
  have hdirect := Host.direct_of_base hbase
  refine bind_eq_ok_iff.2 ⟨base, Host.base_again h.folders hbase, ?_⟩
  refine bind_eq_ok_iff.2 ⟨ps, hps, ?_⟩
  refine classifyAbsolute_again h hd (fun p hp => ?_) hok
  obtain ⟨text, -, habsolute⟩ := (mapM_matches hps).1 p hp
  exact Host.direct_of_absolute hdirect.absolute habsolute

/-! ## Scans -/

/-- Something whose path is not too long fits into a directory, unless the spelling of the directory
makes its path just too long. -/
theorem fits_joinText_iff {name : String} (hp : directory.Direct) (hname : Path.IsPart name)
    (hshort : Location.Short (directory.parts ++ [name])) :
    (directory.joinText name).Fits ↔ ¬ (directory.anchor = .doubleRoot
      ∧ (Route.ofPath (directory.joinText name)).size = Disk.maxPath) := by
  obtain ⟨hparts, hanchor⟩ := Path.parts_joinText hname directory
  have habsolute : (directory.joinText name).isAbsolute = true := by
    rw [Path.isAbsolute, hanchor]
    exact hp.absolute
  have hsize := Path.size_ofPath habsolute (by simp [hparts])
  have hweight := hshort.weight
  have hlast := hshort.name name (by simp)
  rw [hparts, hanchor] at hsize
  rw [Path.Fits, Path.name_joinText hname]
  by_cases hdouble : directory.anchor = .doubleRoot
  · rw [if_pos hdouble] at hsize
    simp only [hdouble, true_and]
    omega
  · rw [if_neg hdouble] at hsize
    simp only [hdouble, false_and, not_false_eq_true, iff_true]
    omega

theorem projectsListed_again (h : InputsKept d e) (directory : Path) (top : Location) :
    sorted (projectsListed e directory top) = sorted (projectsListed d directory top) := by
  refine sorted_eq_of_mem_iff (nodup_projectsListed ..) (nodup_projectsListed ..) fun p => ?_
  rw [mem_projectsListed, mem_projectsListed]
  refine exists_congr fun name => exists_congr fun content => and_congr_right ?_
  rintro rfl
  refine and_congr_left fun hsuffix => ?_
  by_cases hname : Disk.IsName name
  · have hinput : Location.IsInput (top ++ [name]) := by
      rw [Path.hasSuffix, Path.name_joinText hname.1] at hsuffix
      exact .inr (by rwa [Location.hasSuffix, List.getLast?_concat, Option.getD_some])
    rw [← Disk.file?_eq_some_iff, ← Disk.file?_eq_some_iff, h.file?_eq hinput]
  · -- nothing has a name that is not valid
    have hnone : ∀ {disk : Disk}, disk.get? (top ++ [name]) ≠ some (.file content) :=
      fun hfile => hname (Disk.isName_of_get? hfile name (by simp))
    exact ⟨fun hfile => absurd hfile hnone, fun hfile => absurd hfile hnone⟩

/-- The descriptors of a directory are found again, unless it is crowded. -/
theorem projectsIn_again (h : InputsKept d e) (hd : d.LinkFree) (hp : directory.Direct)
    (hok : projectsIn host d directory = .ok ps) :
    (¬ Crowded d e directory → projectsIn host e directory = .ok ps)
      ∧ (Crowded d e directory → projectsIn host e directory = .error (.system .nameTooLong)) := by
  have he := h.linkFree hd
  have hleads := leadsToFolder_of_projectsIn hd hok
  have hplace : directory.location host.cwd = directory.parts := hp.location_eq
  have hopens := (hleads.mono hp h.folders).opens he hp
  rw [projectsIn_eq (hleads.opens hd hp) (hd.noLinksBelow _)] at hok
  obtain ⟨hfits, hps⟩ : (∀ name ∈ d.namesIn (directory.location host.cwd),
      (directory.joinText name).Fits)
        ∧ sorted (projectsListed d directory (directory.location host.cwd)) = ps := by
    split at hok
    next hfits => exact ⟨hfits, Except.ok.inj hok⟩
    next => simp at hok
  have hiff : (∀ name ∈ e.namesIn (directory.location host.cwd), (directory.joinText name).Fits)
      ↔ ¬ Crowded d e directory := by
    rw [hplace] at hfits ⊢
    constructor
    · rintro hall ⟨hdouble, name, -, hnew, hsize⟩
      have hfit := hall name (Disk.mem_namesIn.2 hnew)
      have hlong := hfit.1
      omega
    · intro hnot name hname
      by_cases hold : d.get? (directory.parts ++ [name]) = none
      · -- a new name is short, so only the spelling could be too long
        have hnew := Disk.mem_namesIn.1 hname
        refine (fits_joinText_iff hp (isName_of_mem_namesIn hname).1 (h.short _ hold hnew)).2 ?_
        exact fun ⟨hdouble, hsize⟩ => hnot ⟨hdouble, name, hold, hnew, hsize⟩
      · exact hfits name (Disk.mem_namesIn.2 hold)
  rw [projectsIn_eq hopens (he.noLinksBelow _), projectsListed_again h, hps]
  exact ⟨fun hnot => if_pos (hiff.2 hnot), fun hcrowded => if_neg fun hall => hiff.1 hall hcrowded⟩

/-- What stands at the place of an input and is no directory is the same. -/
theorem InputsKept.node_iff (h : InputsKept d e) {k : Location} (hk : k.IsInput) :
    (∃ n, e.get? k = some n ∧ n ≠ .folder) ↔ ∃ n, d.get? k = some n ∧ n ≠ .folder := by
  rcases h.inputs k hk with he | ⟨hnone, hfolder⟩
  · rw [he]
  · simp [hnone, hfolder]

/-- The sources below a directory are found again. -/
theorem sourcesBelow_again (h : InputsKept d e) (hd : d.LinkFree) (hp : directory.Direct)
    (hleads : d.LeadsToFolder host.cwd directory) :
    sorted (sourcesBelow host e directory) = sorted (sourcesBelow host d directory) := by
  have he := h.linkFree hd
  -- what is spelled like a source below the directory stands at the place of an input
  have hinput : ∀ {disk : Disk} {names : List String} {n : Node},
      disk.get? (directory.location host.cwd ++ names) = some n →
      (directory.join (.ofComponents .relative names)).hasSuffix sourceSuffix = true →
        Location.IsInput (directory.location host.cwd ++ names) := by
    intro disk names n hn hsource
    have hnames : ∀ name ∈ names, Path.IsPart name := fun name hname =>
      (Disk.isName_of_get? hn name (List.mem_append_right _ hname)).1
    refine .inl ?_
    rw [Path.hasSuffix, Path.name, (Path.parts_join_ofComponents hnames directory).1] at hsource
    rwa [hp.location_eq]
  refine sorted_eq_of_mem_iff (nodup_sourcesBelow ..) (nodup_sourcesBelow ..) fun p => ?_
  rw [mem_sourcesBelow ((hleads.mono hp h.folders).opens he hp) (he.noLinksBelow _),
    mem_sourcesBelow (hleads.opens hd hp) (hd.noLinksBelow _)]
  refine exists_congr fun names => and_congr_right ?_
  rintro rfl
  refine and_congr_right fun _ => ⟨?_, ?_⟩
  · rintro ⟨⟨n, hn, hfolder⟩, hshort, hsource⟩
    exact ⟨(h.node_iff (hinput hn hsource)).1 ⟨n, hn, hfolder⟩, hshort, hsource⟩
  · rintro ⟨⟨n, hn, hfolder⟩, hshort, hsource⟩
    exact ⟨(h.node_iff (hinput hn hsource)).2 ⟨n, hn, hfolder⟩, hshort, hsource⟩

/-- A scan looks at nothing but descriptors and sources. -/
theorem scan_congr (hprojects : projectsIn host e directory = projectsIn host d directory)
    (hsources : sorted (sourcesBelow host e directory) = sorted (sourcesBelow host d directory)) :
    scan host e directory = scan host d directory := by
  unfold scan
  rw [hprojects, hsources]

/-- What resolving comes to for a caller who goes on: a target, or nothing to build. -/
def Settled (x : Except Failure Target) : Prop :=
  (∃ target, x = .ok target) ∨ ∃ directory, x = .error (.refused (.noSource directory))

/-- The inputs are a directory that has become crowded. -/
def Outgrown (host : Host) (d e : Disk) (paths : List String) (cwd : Option String) : Prop :=
  ∃ directory, classify host d paths cwd = .ok (.directory directory) ∧ Crowded d e directory

theorem outgrown_iff {paths : List String} {cwd : Option String}
    (hclassify : classify host d paths cwd = .ok (.directory directory)) :
    Outgrown host d e paths cwd ↔ Crowded d e directory := by
  constructor
  · rintro ⟨directory', hdirectory, hcrowded⟩
    obtain rfl : directory = directory' := by simpa [hclassify] using hdirectory
    exact hcrowded
  · exact fun hcrowded => ⟨directory, hclassify, hcrowded⟩

/-- A directory that is not spelled with two slashes is never too crowded. -/
theorem not_outgrown {paths : List String} {cwd : Option String}
    (hclassify : classify host d paths cwd = .ok (.directory directory))
    (hanchor : directory.anchor ≠ .doubleRoot) : ¬ Outgrown host d e paths cwd :=
  fun houtgrown => hanchor ((outgrown_iff hclassify).1 houtgrown).1

/-- A scan whose search for descriptors fails leaves no trail. -/
theorem runFrom_scan_of_error {f : Failure} (h : projectsIn host d directory = .error f)
    (t : Trail) :
    (scan host d directory).runFrom t = (.error f, t) := by
  rw [scan, Attempt.runFrom_bind, Attempt.runFrom_ofExcept, h]

/-- Without descriptors a scan finds the sources, if there are any. -/
theorem runFrom_scan_of_sources {p : Path} (h : projectsIn host d directory = .ok [])
    (hsources : sorted (sourcesBelow host d directory) = p :: ps) (t : Trail) :
    (scan host d directory).runFrom t
      = (.ok (.sources ⟨p :: ps, List.cons_ne_nil _ _, directory⟩), t) := by
  rw [scan, Attempt.runFrom_bind, Attempt.runFrom_ofExcept, h]
  simp only [hsources]
  rfl

/-- A scan comes to the same again, unless the directory has become crowded. -/
theorem scan_again {t t' : Trail} {x : Except Failure Target} (h : InputsKept d e)
    (hd : d.LinkFree) (hp : directory.Direct)
    (hx : (scan host d directory).runFrom t = (x, t')) (hsettled : Settled x) :
    (¬ Crowded d e directory → (scan host e directory).runFrom t = (x, t'))
      ∧ (Crowded d e directory →
        (scan host e directory).runFrom t = (.error (.system .nameTooLong), t)) := by
  cases hprojects : projectsIn host d directory with
  | error f =>
    -- such a failure is one of the operating system
    have hends : Ends (fun _ => False) _ (projectsIn host d directory) := ends_projectsIn directory
    rw [hprojects] at hends
    rw [runFrom_scan_of_error hprojects] at hx
    obtain ⟨rfl, -⟩ := Prod.mk.inj hx
    rcases hsettled with ⟨target, h⟩ | ⟨directory, h⟩
    · simp at h
    · exact absurd (Except.error.inj h) (hends.ne_refused _)
  | ok ps =>
    obtain ⟨hagain, hcrowded⟩ := projectsIn_again h hd hp hprojects
    have hsources := sourcesBelow_again h hd hp (leadsToFolder_of_projectsIn hd hprojects)
    refine ⟨fun hnot => ?_, fun hyes => runFrom_scan_of_error (hcrowded hyes) t⟩
    rw [scan_congr ((hagain hnot).trans hprojects.symm) hsources, hx]

/-- What inputs ask for is looked up, and a record tells what it came to. -/
theorem runFrom_resolve (host : Host) (d : Disk) (paths : List String) (cwd : Option String)
    (t : Trail) :
    (resolve host d paths cwd).runFrom t =
      match classify host d paths cwd with
      | .error f => (.error f, t)
      | .ok (.target target) =>
        (.ok target, { t with log := t.log ++ [resolvedRecord target] })
      | .ok (.directory directory) =>
        match (scan host d directory).runFrom t with
        | (.error f, t) => (.error f, t)
        | (.ok target, t) => (.ok target, { t with log := t.log ++ [resolvedRecord target] }) := by
  rw [resolve, Attempt.runFrom_bind, Attempt.runFrom_ofExcept]
  rcases classify host d paths cwd with f | directory | target
  · rfl
  · simp only [Attempt.runFrom_bind]
    rcases (scan host d directory).runFrom t with ⟨f | target, t⟩ <;> rfl
  · rfl

/-- A directory resolves to what its scan finds. -/
theorem runFrom_resolve_of_scan {paths : List String} {cwd : Option String} {t t' : Trail}
    {target : Target} (hclassify : classify host d paths cwd = .ok (.directory directory))
    (hscan : (scan host d directory).runFrom t = (.ok target, t')) :
    (resolve host d paths cwd).runFrom t
      = (.ok target, { t' with log := t'.log ++ [resolvedRecord target] }) := by
  rw [runFrom_resolve, hclassify]
  simp only [hscan]

/-- What inputs resolved to they resolve to again, and where nothing was found nothing is found
again, unless the directory has become crowded. -/
theorem resolve_again {paths : List String} {cwd : Option String} {t t' : Trail}
    {x : Except Failure Target} (h : InputsKept d e) (hd : d.LinkFree)
    (hx : (resolve host d paths cwd).runFrom t = (x, t')) (hsettled : Settled x) :
    (¬ Outgrown host d e paths cwd → (resolve host e paths cwd).runFrom t = (x, t'))
      ∧ (Outgrown host d e paths cwd →
        (resolve host e paths cwd).runFrom t = (.error (.system .nameTooLong), t)) := by
  rw [runFrom_resolve] at hx ⊢
  cases hclassify : classify host d paths cwd with
  | error f =>
    have hends : Ends _ _ (classify host d paths cwd) := ends_classify paths cwd
    rw [hclassify] at hx hends
    obtain ⟨rfl, -⟩ := Prod.mk.inj hx
    rcases hsettled with ⟨target, h⟩ | ⟨directory, h⟩
    · simp at h
    · obtain rfl := Except.error.inj h
      exact absurd hends id
  | ok request =>
    rw [hclassify] at hx
    rw [classify_again h hd hclassify]
    cases request with
    | target found =>
      refine ⟨fun _ => hx, fun ⟨directory, hdirectory, _⟩ => ?_⟩
      simp [hclassify] at hdirectory
    | directory directory =>
      have hp : directory.Direct := direct_of_classify hclassify
      rw [outgrown_iff hclassify]
      simp only at hx ⊢
      rcases hscan : (scan host d directory).runFrom t with ⟨y, t₁⟩
      rw [hscan] at hx
      -- the scan was settled if what is made of it is
      have hscanned : Settled y := by
        cases y with
        | error f => exact (Prod.mk.inj hx).1 ▸ hsettled
        | ok target => exact .inl ⟨target, rfl⟩
      obtain ⟨hagain, hcrowded⟩ := scan_again h hd hp hscan hscanned
      refine ⟨fun hnot => ?_, fun hyes => ?_⟩
      · rw [hagain hnot]
        exact hx
      · rw [hcrowded hyes]

end Sources

end ContractBuild
