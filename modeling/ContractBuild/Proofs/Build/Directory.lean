import ContractBuild.Engine.Canned
import ContractBuild.Proofs.Build.Stages
import ContractBuild.Proofs.Disk.Rooted
import ContractBuild.Proofs.Path.Text
import ContractBuild.Proofs.Sources.Stable

/-!
# The directory of a build

A build takes relative paths from one base directory: the one given as `cwd`, itself relative to the
working directory, or else the working directory. Everything after that goes by absolute paths, so
two runs with the same base come to the same, wherever the process runs (`run_of_base`). The base
itself depends on the working directory in one more way: that must exist, even where an absolute
`cwd` is given (`cwd_stands_for_directory`).
-/

namespace ContractBuild

/-- A host with another working directory. -/
def Host.movedTo (host : Host) (l : Location) : Host := { host with cwd := l }

variable {host : Host} {l : Location} {disk : Disk} {p : Path}

/-! ## Resolving absolute paths -/

namespace Sources

theorem isFolder_movedTo (h : p.isAbsolute = true) :
    isFolder (host.movedTo l) disk p = isFolder host disk p := by
  rw [isFolder, Disk.isFolder_absolute h disk _ host.cwd, isFolder]

theorem isFile_movedTo (h : p.isAbsolute = true) :
    isFile (host.movedTo l) disk p = isFile host disk p := by
  rw [isFile, Disk.isFile_absolute h disk _ host.cwd, isFile]

theorem checkFiles_movedTo {ps : List Path} (h : ∀ p ∈ ps, p.isAbsolute = true) :
    checkFiles (host.movedTo l) disk ps = checkFiles host disk ps := by
  induction ps with
  | nil => rfl
  | cons p ps ih =>
    have hps := ih fun q hq => h q (List.mem_cons_of_mem p hq)
    simp only [checkFiles, isFile_movedTo (h p (List.mem_cons_self ..)), hps]

theorem single?_movedTo (h : p.isAbsolute = true) :
    single? (host.movedTo l) disk p = single? host disk p := by
  simp only [single?, isFolder_movedTo h, isFile_movedTo h]

theorem fileList_movedTo {ps : List Path} (h : ∀ q ∈ p :: ps, q.isAbsolute = true) :
    fileList (host.movedTo l) disk p ps = fileList host disk p ps := by
  simp only [fileList, checkFiles_movedTo h]

theorem classifyAbsolute_movedTo {base : Path} {ps : List Path}
    (h : ∀ p ∈ ps, p.isAbsolute = true) :
    classifyAbsolute (host.movedTo l) disk base ps = classifyAbsolute host disk base ps := by
  match ps with
  | [] => rfl
  | [p] => simp only [classifyAbsolute, single?_movedTo (h p (by simp)), fileList_movedTo h]
  | p :: q :: ps => exact fileList_movedTo h

theorem filterM_congr {α : Type} {f g : α → Except Failure Bool} {as : List α}
    (h : ∀ a ∈ as, f a = g a) : as.filterM f = as.filterM g := by
  have haux (acc : List α) : List.filterAuxM f as acc = List.filterAuxM g as acc := by
    induction as generalizing acc with
    | nil => rfl
    | cons a as ih =>
      rw [List.filterAuxM, List.filterAuxM, h a (List.mem_cons_self ..)]
      simp only [ih fun b hb => h b (List.mem_cons_of_mem a hb)]
  simp only [List.filterM, haux]

theorem projectsIn_movedTo (h : p.isAbsolute = true) :
    projectsIn (host.movedTo l) disk p = projectsIn host disk p := by
  have hfiles (names : List String) :
      (names.map p.joinText).filterM (isFile (host.movedTo l) disk)
        = (names.map p.joinText).filterM (isFile host disk) := by
    refine filterM_congr fun q hq => ?_
    obtain ⟨name, -, rfl⟩ := List.mem_map.1 hq
    exact isFile_movedTo (Path.isAbsolute_join h)
  simp only [projectsIn, Disk.list_absolute h disk (host.movedTo l).cwd host.cwd, hfiles]

theorem sourcesBelow_movedTo (h : p.isAbsolute = true) :
    sourcesBelow (host.movedTo l) disk p = sourcesBelow host disk p := by
  have hrooted : (Route.ofPath p).rooted = true := h
  simp only [sourcesBelow, Disk.locate_rooted hrooted disk (host.movedTo l).cwd host.cwd,
    Disk.filesBelow_rooted hrooted disk _ _ (host.movedTo l).cwd host.cwd]

theorem scan_movedTo (h : p.isAbsolute = true) :
    scan (host.movedTo l) disk p = scan host disk p := by
  simp only [scan, projectsIn_movedTo h, sourcesBelow_movedTo h]

section Base

variable {base : Path} {cwd cwd' : Option String}

theorem classify_of_base (h : host.base disk cwd = .ok base)
    (h' : (host.movedTo l).base disk cwd' = .ok base) (paths : List String) :
    classify (host.movedTo l) disk paths cwd' = classify host disk paths cwd := by
  have hbase := (Host.direct_of_base h).absolute
  rw [classify, classify, h, h']
  -- What is left of the working directory stands in the tests of paths that are absolute by now.
  show (paths.mapM (fun s => host.absolute (Path.ofText s) base)
      >>= classifyAbsolute (host.movedTo l) disk base)
    = (paths.mapM (fun s => host.absolute (Path.ofText s) base)
      >>= classifyAbsolute host disk base)
  cases hps : paths.mapM fun s => host.absolute (Path.ofText s) base with
  | error f => rfl
  | ok ps =>
    refine classifyAbsolute_movedTo fun p hp => ?_
    obtain ⟨s, -, hs⟩ := (mapM_matches hps).1 p hp
    exact (Host.direct_of_absolute hbase hs).absolute

/-- What inputs resolve to depends on the base alone. -/
theorem resolve_of_base (h : host.base disk cwd = .ok base)
    (h' : (host.movedTo l).base disk cwd' = .ok base) (paths : List String) (t : Trail) :
    (resolve (host.movedTo l) disk paths cwd').runFrom t
      = (resolve host disk paths cwd).runFrom t := by
  rw [runFrom_resolve, runFrom_resolve, classify_of_base h h']
  cases hclassify : classify host disk paths cwd with
  | error f => rfl
  | ok request =>
    cases request with
    | target t => rfl
    | directory p =>
      have hp : p.isAbsolute = true := (direct_of_classify hclassify).absolute
      simp only [scan_movedTo hp]

end Base

end Sources

/-! ## Writing below an absolute folder -/

namespace Artifact

variable {c : Content} {r : Compiled} {layout : Layout}

theorem store_absolute (h : p.isAbsolute = true) (d : Disk) (c : Content)
    (cut? : Option Disk.Cutoff) (l k : Location) : store d l p c cut? = store d k p c cut? := by
  have hkeeps (d : Disk) : keepsNothing d l p = keepsNothing d k p := by
    rw [keepsNothing, Disk.status_rooted (r := .ofPath p) h d l k, keepsNothing]
  have hfault (d : Disk) : fillFault? d l p c = fillFault? d k p c := by
    cases c <;> simp only [fillFault?, hkeeps]
  have hfill : d.fill l p c.bytes cut? = d.fill k p c.bytes cut? := by
    unfold Disk.fill
    rw [Disk.write_absolute h d _ l k]
  have hdiscard (d : Disk) : discard d l p = discard d k p := by
    rw [discard, Disk.unlink_absolute h d l k, discard]
  have habandon (d : Disk) : abandon d l p c = abandon d k p c := by
    cases c <;> simp only [abandon, hdiscard]
  have hretract (d : Disk) (n : Errno) : retract d l p n c = retract d k p n c := by
    cases c <;> simp only [retract, Disk.unlink_absolute h d l k]
  simp only [store, hfill, hfault, habandon, hretract, hdiscard]

theorem writeOne_movedTo (h : layout.folder.isAbsolute = true) (a : Artifact) (s : Run) :
    (writeOne (host.movedTo l) r layout a).runFrom s = (writeOne host r layout a).runFrom s := by
  have hpath : (layout.path a).isAbsolute = true := Path.isAbsolute_join h
  rw [runFrom_writeOne, runFrom_writeOne]
  simp only [store_absolute hpath s.disk _ _ (host.movedTo l).cwd host.cwd]
  rfl

theorem writeAll_movedTo (h : layout.folder.isAbsolute = true) (as : List Artifact) (s : Run) :
    (writeAll (host.movedTo l) r layout as).runFrom s
      = (writeAll host r layout as).runFrom s := by
  induction as generalizing s with
  | nil => rfl
  | cons a as ih =>
    simp only [writeAll, Running.runFrom_bind, writeOne_movedTo h, ih]

theorem prepareFolder_movedTo (h : p.isAbsolute = true) (s : Run) :
    (prepareFolder (host.movedTo l) p).runFrom s = (prepareFolder host p).runFrom s := by
  rw [runFrom_prepareFolder, runFrom_prepareFolder,
    Disk.ensureFolders_absolute h s.disk (host.movedTo l).cwd host.cwd]
  rfl

theorem write_movedTo {options : Options} {fallback : Path} {name : Value}
    (h : (options.outputFolder fallback).isAbsolute = true) (s : Run) :
    (write (host.movedTo l) r options fallback name).runFrom s
      = (write host r options fallback name).runFrom s := by
  have hall (layout : Layout) (chosen : Value)
      (hlayout : Layout.ofName (options.outputFolder fallback) chosen = .valid layout)
      (s : Run) : (writeAll (host.movedTo l) r layout (plan options)).runFrom s
        = (writeAll host r layout (plan options)).runFrom s := by
    refine writeAll_movedTo ?_ _ s
    rw [(ofName_eq_valid hlayout).1]
    exact h
  rw [runFrom_write, runFrom_write, prepareFolder_movedTo h]
  split
  next => rfl
  next =>
    split
    next => rfl
    next chosen _ =>
      split
      next => rfl
      next =>
        split
        next => rfl
        next layout hlayout => rw [hall layout chosen hlayout]

end Artifact

/-! ## The whole build -/

namespace Build

variable {registry : Engine.Registry} {job job' : Job} {s : Run} {base : Path}

/-- Two builds of one host in different working directories that ask for the same and take relative
paths from the same base. -/
structure SameBase (host : Host) (l : Location) (disk : Disk) (job job' : Job) (base : Path) :
    Prop where
  paths : job'.paths = job.paths
  options : job'.options = job.options
  engine : job'.engine = job.engine
  here : host.base disk job.cwd = .ok base
  there : (host.movedTo l).base disk job'.cwd = .ok base

theorem anchorOutput_of_base (h : SameBase host l disk job job' base) :
    anchorOutput (host.movedTo l) disk job'.options job'.cwd
      = anchorOutput host disk job.options job.cwd := by
  rw [anchorOutput, anchorOutput, h.options, h.here, h.there]
  rfl

theorem compile_of_base (h : SameBase host l disk job job' base) (t : Trail) :
    (compile (host.movedTo l) registry disk job').runFrom t
      = (compile host registry disk job).runFrom t := by
  simp only [compile, Attempt.runFrom_bind, h.paths, h.options, h.engine,
    Sources.resolve_of_base h.here h.there]

theorem deliver_of_base {target : Target} {r : Compiled}
    (h : SameBase host l s.disk job job' base) (htarget : target.folder.Direct) :
    (deliver (host.movedTo l) job' target r).runFrom s = (deliver host job target r).runFrom s := by
  rw [runFrom_deliver, runFrom_deliver, anchorOutput_of_base h, h.options]
  split
  next => rfl
  next =>
    split
    next => rfl
    next options hanchor =>
      exact Artifact.write_movedTo (direct_outputFolder hanchor htarget).absolute s

/-- Builds that take relative paths from the same base come to the same. -/
theorem run_of_base (h : SameBase host l s.disk job job' base) :
    (run (host.movedTo l) registry job').runFrom s = (run host registry job).runFrom s := by
  rw [runFrom_run, runFrom_run, compile_of_base h]
  rcases hcompile : (compile host registry s.disk job).runFrom s.trail with ⟨f | ⟨target, r⟩, t⟩
  · cases f <;> rfl
  · obtain ⟨t₁, e, t₂, hresolve, -, -⟩ := compile_eq_ok_iff.1 hcompile
    -- The fallback folder is that of the target, not of the base, so it needs its own argument.
    have htarget := Sources.direct_folder_of_resolve hresolve
    have hdeliver : (deliver (host.movedTo l) job' target r).runFrom (reported s t r.diagnostics)
        = (deliver host job target r).runFrom (reported s t r.diagnostics) :=
      deliver_of_base h htarget
    simp only [hdeliver]

end Build

/-! ## Bases -/

namespace Host

/-- An absolute directory is its own base, wherever the process runs. -/
theorem base_of_absolute {c : String} (hc : (Path.ofText c).isAbsolute = true)
    (hcwd : disk.get? host.cwd = some .folder) :
    host.base disk (some c) = .ok (Path.ofText c).normalize := by
  have hdirectory : host.directory disk = .ok (.ofComponents .root host.cwd) := if_pos hcwd
  simp only [base, hdirectory]
  rw [absolute, Path.absolute_of_isAbsolute hc, mapError_ok]

/-- An existing directory is the base of a process that runs there. -/
theorem base_movedTo (hroot : p.anchor = .root) (hp : disk.get? p.parts = some .folder) :
    (host.movedTo p.parts).base disk none = .ok p := by
  have hdirectory : (host.movedTo p.parts).directory disk = .ok (.ofComponents .root p.parts) :=
    if_pos hp
  have hsame : Path.ofComponents .root p.parts = p := by
    apply Path.ext
    · exact hroot.symm
    · exact List.filter_eq_self.2 fun name hname => by simpa using p.isPart name hname
  simp only [base, hdirectory, hsame]

/-- Nothing is a base for a process whose directory was removed. -/
theorem base_of_removed (hcwd : disk.get? host.cwd ≠ some .folder) (cwd : Option String) :
    host.base disk cwd = .error (.system .noEntry) := by
  have hdirectory : host.directory disk = .error (.system .noEntry) := if_neg hcwd
  simp only [base, hdirectory]

end Host

namespace Build

variable {registry : Engine.Registry} {job : Job} {s : Run}

/-- Without a base nothing is built. -/
theorem run_of_no_base {e : Errno} (h : host.base s.disk job.cwd = .error (.system e)) :
    (run host registry job).runFrom s = (.error (.system e), s) := by
  have hclassify : Sources.classify host s.disk job.paths job.cwd = .error (.system e) := by
    rw [Sources.classify, h]
    rfl
  have hresolve : (Sources.resolve host s.disk job.paths job.cwd).runFrom s.trail
      = (.error (.system e), s.trail) := by
    rw [Sources.runFrom_resolve, hclassify]
  exact run_iff.2 (.broken (compile_eq_error_iff.2 (.inl hresolve)) (by simp))

/-- The directory that is given stands for the working directory. With an absolute one a build comes
to the same from any two existing directories, and with one that names an existing directory, by a
single slash at the start, it comes to the same as from there. But from a directory that was removed
nothing is built, whatever is given. -/
theorem cwd_stands_for_directory (host : Host) (registry : Engine.Registry) (job : Job) (s : Run) :
    (∀ c l, job.cwd = some c → (Path.ofText c).isAbsolute = true →
      s.disk.get? host.cwd = some .folder → s.disk.get? l = some .folder →
      (run (host.movedTo l) registry job).runFrom s = (run host registry job).runFrom s)
    ∧ (∀ c d p, job.cwd = some c → host.directory s.disk = .ok d →
      host.absolute (.ofText c) d = .ok p → p.anchor = .root →
      s.disk.get? p.parts = some .folder →
      (run (host.movedTo p.parts) registry { job with cwd := none }).runFrom s
        = (run host registry job).runFrom s)
    ∧ (s.disk.get? host.cwd ≠ some .folder →
      (run host registry job).runFrom s = (.error (.system .noEntry), s)) := by
  refine ⟨fun c l hc habsolute hhere hthere => ?_, fun c d p hc hd hp hroot hfolder => ?_,
    fun hremoved => ?_⟩
  · have hbase : host.base s.disk job.cwd = .ok (Path.ofText c).normalize := by
      rw [hc]
      exact Host.base_of_absolute habsolute hhere
    have hbase' : (host.movedTo l).base s.disk job.cwd = .ok (Path.ofText c).normalize := by
      rw [hc]
      exact Host.base_of_absolute habsolute hthere
    exact run_of_base ⟨rfl, rfl, rfl, hbase, hbase'⟩
  · have hbase : host.base s.disk job.cwd = .ok p := by
      simp only [hc, Host.base, hd, hp]
    exact run_of_base ⟨rfl, rfl, rfl, hbase, Host.base_movedTo hroot hfolder⟩
  · exact run_of_no_base (Host.base_of_removed hremoved job.cwd)

/-- A source file of another directory, which an absolute and then a relative `cwd` name. -/
theorem other_directory_built :
    let host : Host := { cwd := ["v"], homes := ⟨"/", []⟩ }
    let engine : Engine.Source := .given ({} : Canned).engine
    let job : Job := { paths := ["Token.cs"], engine, cwd := some "/w" }
    let job' : Job := { job with cwd := some "../w" }
    let s : Run :=
      { disk := ((Disk.empty.put ["v"] .folder).put ["w"] .folder).put ["w", "Token.cs"]
          (.file []) }
    ((Path.ofText "/w").isAbsolute = true ∧ s.disk.get? ["v"] = some .folder
        ∧ s.disk.get? ["w"] = some .folder
        ∧ (run (host.movedTo ["w"]) {} job).runFrom s = (run host {} job).runFrom s)
      ∧ (host.directory s.disk = .ok (.ofText "/v")
        ∧ host.absolute (.ofText "../w") (.ofText "/v") = .ok (.ofText "/w")
        ∧ (run (host.movedTo ["w"]) {} { job' with cwd := none }).runFrom s
          = (run host {} job').runFrom s)
      ∧ s.disk.get? ["x"] ≠ some .folder
      ∧ (run (host.movedTo ["x"]) {} job).runFrom s = (.error (.system .noEntry), s) := by
  intro host engine job job' s
  have habsolute : (Path.ofText "/w").isAbsolute = true := by decide +kernel
  have hv : s.disk.get? ["v"] = some .folder := by decide +kernel
  have hw : s.disk.get? ["w"] = some .folder := by decide +kernel
  have hx : s.disk.get? ["x"] ≠ some .folder := by decide +kernel
  have hdirectory : host.directory s.disk = .ok (.ofText "/v") := by decide +kernel
  have hbase : host.absolute (.ofText "../w") (.ofText "/v") = .ok (.ofText "/w") := by
    decide +kernel
  have hroot : (Path.ofText "/w").anchor = .root := by decide +kernel
  have hparts : (Path.ofText "/w").parts = ["w"] := by decide +kernel
  have hfolder : s.disk.get? (Path.ofText "/w").parts = some .folder := by rw [hparts, hw]
  have hmoved := (cwd_stands_for_directory host {} job' s).2.1 "../w" _ _ rfl hdirectory hbase hroot
    hfolder
  rw [hparts] at hmoved
  exact ⟨⟨habsolute, hv, hw,
      (cwd_stands_for_directory host {} job s).1 "/w" ["w"] rfl habsolute hv hw⟩,
    ⟨hdirectory, hbase, hmoved⟩, hx,
    (cwd_stands_for_directory (host.movedTo ["x"]) {} job s).2.2 hx⟩

/-- From the directory that is given a source file is built, from one that was removed it is not,
although the same absolute directory is given. -/
theorem removed_directory_differs :
    let disk : Disk := (Disk.empty.put ["w"] .folder).put ["w", "Token.cs"] (.file [])
    let host : Host := { cwd := ["gone"], homes := ⟨"/", []⟩ }
    let engine : Engine.Source := .given ({} : Canned).engine
    let job : Job := { paths := ["Token.cs"], engine, cwd := some "/w" }
    let s : Run := { disk := (disk.put ["gone"] .folder).remove ["gone"] }
    let removed : Host := host.withoutLocation ["gone"]
    (Path.ofText "/w").isAbsolute = true
      ∧ (((run (removed.movedTo ["w"]) {} job).runFrom s).1.toOption.map (·.status))
        = some .succeeded
      ∧ ((run removed {} job).runFrom s).1 = .error (.system .noEntry) := by
  decide +kernel

end Build

end ContractBuild
