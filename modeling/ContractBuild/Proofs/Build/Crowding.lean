import ContractBuild.Engine.Canned
import ContractBuild.Proofs.Build.Deep
import ContractBuild.Proofs.Build.Stages
import ContractBuild.Proofs.Compilation
import ContractBuild.Proofs.Path.Text
import ContractBuild.Proofs.Sources.Stable

/-!
# Builds that crowd their own directory

A build that creates its output folder directly in the directory that it scans can make the
directory crowded (`outgrown_of_run`): spelled with two slashes, the path of the folder is one byte
longer than the operating system needs, and may be just too long. `deepDisk` with `deepJob` is the
least such case: one source, fifteen directories deep.
-/

namespace ContractBuild

namespace Build

variable {host : Host} {registry : Engine.Registry} {job : Job} {s s' : Run}

/-- A build that makes a new folder directly in the directory that it scans makes the directory
crowded, if the path of the folder is just too long in the spelling of the directory. -/
theorem outgrown_of_run {x : Except Failure Outcome} {directory : Path} {name : String}
    {target : Target} {r : Compiled} {t : Trail} {options : Options} {chosen : Value}
    (hd : s.disk.LinkFree)
    (hdirectory : Sources.classify host s.disk job.paths job.cwd = .ok (.directory directory))
    (hcompile : (compile host registry s.disk job).runFrom s.trail = (.ok (target, r), t))
    (hsuccess : r.success = true)
    (hanchor : anchorOutput host s.disk job.options job.cwd = .ok options)
    (hchosen : Artifact.fileName?
      (Compilation.effectiveName r.contractName job.options (.target target)) r options
        = some chosen)
    (hmade : (s.disk.ensureFolders host.cwd (options.outputFolder target.folder)).1 = .ok ())
    (hparts : (options.outputFolder target.folder).parts = directory.parts ++ [name])
    (hnew : s.disk.get? (directory.parts ++ [name]) = none)
    (hdouble : directory.anchor = .doubleRoot)
    (hsize : (Route.ofPath (directory.joinText name)).size = Disk.maxPath)
    (h : (run host registry job).runFrom s = (x, s')) :
    Sources.Outgrown host s.disk s'.disk job.paths job.cwd := by
  refine ⟨directory, hdirectory, hdouble, name, hnew, ?_, hsize⟩
  obtain ⟨_, _, _, hresolve, -, -⟩ := compile_eq_ok_iff.1 hcompile
  have hdirect := direct_outputFolder hanchor (Sources.direct_folder_of_resolve hresolve)
  obtain ⟨y, s₁, hdeliver, hdisk⟩ := disk_of_compile hcompile h
  have hanchored : anchorOutput host (reported s t r.diagnostics).disk job.options job.cwd
      = .ok options := hanchor
  rw [runFrom_deliver, hsuccess] at hdeliver
  simp only [Bool.not_true, Bool.false_eq_true, if_false, hanchored] at hdeliver
  -- the new folder stays, whatever becomes of the artifacts in it
  have hfolder := Artifact.folder_of_write (s := reported s t r.diagnostics) hd hdirect hsuccess
    hchosen hmade hdeliver
  rw [hdirect.location_eq, hparts, ← hdisk] at hfolder
  simp [hfolder]

/-! ## A build in the deep directory -/

/-- Builds what is in the directory, spelled with two slashes, into a new folder directly in it. -/
def deepJob : Job where
  paths := [(deepPath .doubleRoot).toText]
  options := { outputDirectory := some ((deepPath .root).joinText freshName) }
  engine := .given ({} : Canned).engine

theorem base_rootHost (disk : Disk) : rootHost.base disk none = .ok (.ofComponents .root []) := rfl

theorem namesIn_deepDisk {name : String} :
    name ∈ deepDisk.namesIn deepFolder ↔ name = "Token.cs" := by
  have hlong : ¬ deepFolder ++ [name] <+: deepFolder := fun h => absurd h.length_le (by simp)
  rw [Disk.mem_namesIn, get?_deepDisk, if_neg hlong]
  simp

theorem classify_deepJob : Sources.classify rootHost deepDisk deepJob.paths none
    = .ok (.directory (deepPath .doubleRoot)) := by
  obtain ⟨-, hdirect, hleads⟩ := deepPath_spec .doubleRoot (by simp)
  have hfolder : Sources.isFolder rootHost deepDisk (deepPath .doubleRoot) = .ok true :=
    mapError_eq_ok_iff.2 ((Disk.isFolder_eq_true_iff linkFree_deepDisk).2 (hleads _))
  exact Sources.classify_toText hdirect (base_rootHost _) hfolder

theorem projectsListed_deepDisk :
    Sources.projectsListed deepDisk (deepPath .doubleRoot) deepFolder = [] := by
  refine List.eq_nil_iff_forall_not_mem.2 fun p hp => ?_
  obtain ⟨name, content, rfl, hfile, hproject⟩ := Sources.mem_projectsListed.1 hp
  have hname : name ∈ deepDisk.namesIn deepFolder := Disk.mem_namesIn.2 (by simp [hfile])
  rw [namesIn_deepDisk.1 hname, Path.hasSuffix, Path.name_joinText (by decide)] at hproject
  exact absurd hproject (by decide)

theorem fits_deepDisk {name : String} (hname : name ∈ deepDisk.namesIn deepFolder) :
    ((deepPath .doubleRoot).joinText name).Fits := by
  have hlength : "Token.cs".utf8ByteSize = 8 := by decide
  rw [namesIn_deepDisk.1 hname, Path.Fits, size_joinText_deepPath (by decide) (by simp),
    Path.name_joinText (by decide), hlength]
  decide

theorem projectsIn_deepDisk :
    Sources.projectsIn rootHost deepDisk (deepPath .doubleRoot) = .ok [] := by
  rw [Sources.projectsIn_eq opens_deepDisk (linkFree_deepDisk.noLinksBelow _),
    if_pos fun _ => fits_deepDisk, projectsListed_deepDisk, Sources.sorted, List.mergeSort_nil]

theorem mem_sourcesBelow_deepDisk : (deepPath .doubleRoot).joinText "Token.cs"
    ∈ Sources.sourcesBelow rootHost deepDisk (deepPath .doubleRoot) := by
  obtain ⟨-, -, hleads⟩ := deepPath_spec .doubleRoot (by simp)
  have htext : Path.ofText "Token.cs" = .ofComponents .relative ["Token.cs"] := by decide
  refine (Sources.mem_sourcesBelow opens_deepDisk (linkFree_deepDisk.noLinksBelow _)).2
    ⟨["Token.cs"], by rw [Path.joinText, htext], trivial, ?_, ?_, ?_⟩
  · exact ⟨.file [], by rw [get?_deepDisk, if_pos rfl], by simp⟩
  · exact (hleads []).openable.notLong
  · rw [Path.hasSuffix, Path.name_joinText (by decide)]
    decide

/-- The one source is found. -/
theorem exists_resolve_deepJob : ∃ target, ∀ t,
    (Sources.resolve rootHost deepDisk deepJob.paths none).runFrom t
      = (.ok target, { t with log := t.log ++ [Sources.resolvedRecord target] }) := by
  cases hsorted : Sources.sorted
      (Sources.sourcesBelow rootHost deepDisk (deepPath .doubleRoot)) with
  | nil =>
    have hmem : _ ∈ Sources.sorted _ := List.mem_mergeSort.2 mem_sourcesBelow_deepDisk
    simp [hsorted] at hmem
  | cons f fs =>
    refine ⟨.sources ⟨f :: fs, by simp, deepPath .doubleRoot⟩, fun t => ?_⟩
    exact Sources.runFrom_resolve_of_scan classify_deepJob
      (Sources.runFrom_scan_of_sources projectsIn_deepDisk hsorted t)

/-- The folder can be made. -/
theorem ensureFolders_deepDisk :
    (deepDisk.ensureFolders rootHost.cwd ((deepPath .root).joinText freshName)).1 = .ok () := by
  obtain ⟨hparts, hdirect, hleads⟩ := deepPath_spec .root (by simp)
  have hplace : (deepPath .root).location rootHost.cwd = deepFolder :=
    hdirect.location_eq.trans hparts
  obtain ⟨hname, hlength⟩ := isName_freshName
  have hfits : ((deepPath .root).joinText freshName).Fits := by
    rw [Path.Fits, size_joinText_deepPath hname.1 (by simp), Path.name_joinText hname.1, hlength]
    decide
  have hmade := Disk.makeFolder_joinText linkFree_deepDisk hdirect (hleads rootHost.cwd) hname hfits
    (by rw [hplace, get?_freshName])
  rw [Disk.ensureFolders.eq_def, hmade]

/-- The engine answers with a success. -/
theorem exists_compile_deepJob (t : Trail) : ∃ target t',
    (compile rootHost {} deepDisk deepJob).runFrom t
      = (.ok (target, ({} : Canned).answer deepJob.options), t') := by
  obtain ⟨target, hresolve⟩ := exists_resolve_deepJob
  have hcall : ({} : Canned).engine.compile (Compilation.call target deepJob.options)
      = .ok (({} : Canned).answer deepJob.options) := by cases target <;> rfl
  exact ⟨target, _, compile_eq_ok_iff.2
    ⟨_, _, _, hresolve t, rfl, Compilation.run_eq_ok_iff.2 ⟨hcall, rfl⟩⟩⟩

theorem outputFolder_deepJob (fallback : Path) :
    deepJob.options.outputFolder fallback = (deepPath .root).joinText freshName := by
  have hgiven : deepJob.options.outputDirectory = some ((deepPath .root).joinText freshName) := rfl
  rw [Options.outputFolder, hgiven, Option.getD_some]

/-- The new folder has an absolute form already. -/
theorem anchorOutput_deepJob :
    anchorOutput rootHost deepDisk deepJob.options none = .ok deepJob.options := by
  obtain ⟨-, hdirect, -⟩ := deepPath_spec .root (by simp)
  exact anchorOutput_of_direct (hdirect.joinText isName_freshName.1) (base_rootHost _) rfl

/-- The build makes the directory crowded. -/
theorem outgrown_deepJob {t : Trail} {x : Except Failure Outcome} {s' : Run}
    (h : (run rootHost {} deepJob).runFrom { disk := deepDisk, trail := t } = (x, s')) :
    Sources.Outgrown rootHost deepDisk s'.disk deepJob.paths none := by
  obtain ⟨target, t', hcompile⟩ := exists_compile_deepJob t
  obtain ⟨hname, hlength⟩ := isName_freshName
  obtain ⟨hparts, hdirect, -⟩ := deepPath_spec .root (by simp)
  obtain ⟨hdouble, -, -⟩ := deepPath_spec .doubleRoot (by simp)
  obtain ⟨hjoin, -⟩ := Path.parts_joinText hname.1 (deepPath .root)
  have hfolder : (deepJob.options.outputFolder target.folder).parts
      = (deepPath .doubleRoot).parts ++ [freshName] := by
    rw [outputFolder_deepJob, hjoin, hparts, hdouble]
  have hmade : (deepDisk.ensureFolders rootHost.cwd (deepJob.options.outputFolder target.folder)).1
      = .ok () := by rw [outputFolder_deepJob, ensureFolders_deepDisk]
  have hnew : deepDisk.get? ((deepPath .doubleRoot).parts ++ [freshName]) = none := by
    rw [hdouble, get?_freshName]
  have hsize : (Route.ofPath ((deepPath .doubleRoot).joinText freshName)).size = Disk.maxPath := by
    rw [size_joinText_deepPath hname.1 (by simp), hlength]
    rfl
  exact outgrown_of_run (s := { disk := deepDisk, trail := t }) linkFree_deepDisk classify_deepJob
    hcompile rfl anchorOutput_deepJob rfl hmade hfolder hnew rfl hsize h

end Build

end ContractBuild
